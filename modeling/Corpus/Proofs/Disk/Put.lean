import Corpus.Disk.Node

/-!
# What is put into a tree

Everything that is written to a disk is put at a place of its tree. What this comes to is said place
by place: what is put is there (`Node.at?_put_self`), and

> **what is put where no directory is changes that place alone** (`Node.sameBut_put`).

This needs that nothing is below what is put, and it is said of what is at the other places, files
with their bytes and directories without what they hold (`Node.content`), because the directory
around the place gets an entry.
-/

set_option autoImplicit false

namespace Corpus

namespace Node

variable {node n top top' : Node} {name other : String} {place p : Place}
variable {entries : List (String × Node)}

/-! ## Entries -/

theorem lookup_putEntry_self (name : String) (n : Node) (entries : List (String × Node)) :
    (putEntry name n entries).lookup name = some n := by
  induction entries with
  | nil => simp [putEntry]
  | cons entry entries ih =>
    obtain ⟨other, m⟩ := entry
    unfold putEntry
    split
    · exact List.lookup_cons_self
    · rename_i different
      rw [List.lookup_cons, beq_false_of_ne (Ne.symm different)]
      exact ih

theorem lookup_putEntry_ne {name other : String} (different : other ≠ name) (n : Node)
    (entries : List (String × Node)) :
    (putEntry name n entries).lookup other = entries.lookup other := by
  induction entries with
  | nil => simp [putEntry, List.lookup_cons, beq_false_of_ne different]
  | cons entry entries ih =>
    obtain ⟨first, m⟩ := entry
    unfold putEntry
    split
    · rename_i same
      rw [List.lookup_cons, List.lookup_cons, same, beq_false_of_ne different]
    · rw [List.lookup_cons, List.lookup_cons, ih]

theorem mem_putEntry {entry : String × Node} (h : entry ∈ putEntry name node entries) :
    entry = (name, node) ∨ entry ∈ entries := by
  induction entries with
  | nil => exact .inl (List.mem_singleton.1 h)
  | cons first entries ih =>
    obtain ⟨other, n⟩ := first
    unfold putEntry at h
    split at h
    · rcases List.mem_cons.1 h with rfl | h
      · exact .inl rfl
      · exact .inr (List.mem_cons_of_mem _ h)
    · rcases List.mem_cons.1 h with rfl | h
      · exact .inr List.mem_cons_self
      · exact (ih h).imp_right (List.mem_cons_of_mem _)

theorem unique_putEntry (unique : (entries.map Prod.fst).Nodup) :
    ((putEntry name node entries).map Prod.fst).Nodup := by
  induction entries with
  | nil => exact List.pairwise_singleton _ _
  | cons first entries ih =>
    obtain ⟨other, n⟩ := first
    obtain ⟨fresh, unique⟩ := List.nodup_cons.1 unique
    unfold putEntry
    split
    · rename_i same
      rw [← same]
      exact List.nodup_cons.2 ⟨fresh, unique⟩
    · rename_i different
      refine List.nodup_cons.2 ⟨fun again => ?_, ih unique⟩
      obtain ⟨entry, hentry, called⟩ := List.mem_map.1 again
      rcases mem_putEntry hentry with rfl | old
      · exact different called.symm
      · exact fresh (List.mem_map.2 ⟨entry, old, called⟩)

/-- What is there already need not be put there. -/
theorem putEntry_eq_self (h : entries.lookup name = some node) :
    putEntry name node entries = entries := by
  induction entries with
  | nil => cases h
  | cons first entries ih =>
    obtain ⟨other, n⟩ := first
    rw [List.lookup_cons] at h
    unfold putEntry
    split
    · rename_i same
      rw [same, beq_self_eq_true] at h
      rw [same, Option.some.inj h]
    · rename_i different
      rw [beq_false_of_ne (Ne.symm different)] at h
      rw [ih h]

/-! ## Places -/

theorem at?_cons (entries : List (String × Node)) (name : String) (p : Place) :
    (directory entries).at? (name :: p) = (entries.lookup name).bind (·.at? p) := by
  rw [at?, child?]
  cases entries.lookup name <;> rfl

theorem at?_file_ne_directory {bytes : List UInt8} {p : Place} {entries : List (String × Node)} :
    (file bytes).at? p ≠ some (.directory entries) := by
  cases p <;> simp [at?, child?]

theorem put_cons {node child : Node} {name : String} {place : Place}
    {entries : List (String × Node)} (h : entries.lookup name = some child) :
    put node (name :: place) (.directory entries) =
      .directory (putEntry name (put node place child) entries) := by
  cases place with
  | nil => rfl
  | cons next place => simp only [put, h]

/-- Putting something below a directory changes no entry of it but one. -/
theorem exists_put_cons (node : Node) (name : String) (place : Place)
    (entries : List (String × Node)) :
    ∃ entries', put node (name :: place) (.directory entries) = .directory entries' ∧
      ∀ other, other ≠ name → entries'.lookup other = entries.lookup other := by
  cases hname : entries.lookup name with
  | some child => exact ⟨_, put_cons hname, fun _ different => lookup_putEntry_ne different _ _⟩
  | none =>
    cases place with
    | nil => exact ⟨_, rfl, fun _ different => lookup_putEntry_ne different _ _⟩
    | cons next place =>
      refine ⟨entries, ?_, fun _ _ => rfl⟩
      simp only [put, hname]

/-- What is put into a directory is there. -/
theorem at?_put_self (node : Node) (name : String) {place : Place} {top : Node}
    {entries : List (String × Node)} (h : top.at? place = some (.directory entries)) :
    (put node (place ++ [name]) top).at? (place ++ [name]) = some node := by
  induction place generalizing top with
  | nil =>
    cases h
    rw [List.nil_append, put, at?_cons, lookup_putEntry_self]
    rfl
  | cons first place ih =>
    cases top with
    | file old => exact absurd h at?_file_ne_directory
    | directory above =>
      rw [at?_cons] at h
      obtain ⟨child, hchild, hbelow⟩ := Option.bind_eq_some_iff.1 h
      rw [List.cons_append, put_cons hchild, at?_cons, lookup_putEntry_self]
      exact ih hbelow

/-- What is put in the place of something else is there. -/
theorem at?_put_of_at? (h : top.at? place = some n) :
    (put node place top).at? place = some node := by
  induction place generalizing top with
  | nil => rfl
  | cons name place ih =>
    cases top with
    | file bytes => cases h
    | directory entries =>
      rw [at?_cons] at h
      obtain ⟨child, hchild, below⟩ := Option.bind_eq_some_iff.1 h
      rw [put_cons hchild, at?_cons, lookup_putEntry_self]
      exact ih below

theorem put_eq_self (h : top.at? place = some node) : put node place top = top := by
  induction place generalizing top with
  | nil => exact (Option.some.inj h).symm
  | cons name place ih =>
    cases top with
    | file bytes => cases h
    | directory entries =>
      rw [at?_cons] at h
      obtain ⟨child, hchild, below⟩ := Option.bind_eq_some_iff.1 h
      rw [put_cons hchild, ih below, putEntry_eq_self hchild]

/-- Only the directories on the way to a place are touched when something is put there. A property
that all nodes of a tree have is kept if the node that is put has it, and if a directory with such
an entry has it. -/
theorem put_induction {motive : Node → Prop} (hnode : motive node)
    (entry : ∀ name n entries, name ∈ place → motive n → motive (.directory entries) →
      motive (.directory (putEntry name n entries)))
    (child : ∀ name n entries, entries.lookup name = some n → motive (.directory entries) →
      motive n)
    (h : motive top) : motive (put node place top) := by
  induction place generalizing top with
  | nil => exact hnode
  | cons name place ih =>
    cases top with
    | file bytes => cases place <;> exact h
    | directory entries =>
      have called : name ∈ name :: place := List.mem_cons_self
      cases hname : entries.lookup name with
      | some n =>
        rw [put_cons hname]
        apply entry name _ entries called _ h
        apply ih _ (child name n entries hname h)
        intro other m others hother
        exact entry other m others (List.mem_cons_of_mem name hother)
      | none =>
        cases place with
        | nil => exact entry name node entries called hnode h
        | cons next place =>
          simp only [put, hname]
          exact h

/-! ## Other places -/

/-- What is at a place, without what is below it: the bytes of a file. -/
def content : Node → Option (List UInt8)
  | .file bytes => some bytes
  | .directory _ => none

/-- Nothing is below the node. -/
def IsLeaf (n : Node) : Prop :=
  ∀ name place, n.at? (name :: place) = none

theorem isLeaf_file (bytes : List UInt8) : IsLeaf (.file bytes) :=
  fun _ _ => rfl

/-- Two trees are the same but for what is at one place. -/
def SameBut (place : Place) (top top' : Node) : Prop :=
  ∀ p, p ≠ place → (top'.at? p).map content = (top.at? p).map content

theorem SameBut.symm (h : SameBut place top top') : SameBut place top' top :=
  fun p elsewhere => (h p elsewhere).symm

theorem content_eq_some {bytes : List UInt8} : n.content = some bytes ↔ n = .file bytes := by
  cases n <;> simp [content]

theorem isDirectory_eq (n : Node) : n.isDirectory = n.content.isNone := by
  cases n <;> rfl

theorem content_eq_none : n.content = none ↔ ∃ entries, n = .directory entries := by
  cases n <;> simp [content]

theorem SameBut.file (h : SameBut place top top') (elsewhere : p ≠ place) {bytes : List UInt8} :
    top'.at? p = some (.file bytes) ↔ top.at? p = some (.file bytes) := by
  have same := h p elsewhere
  constructor
  · intro there
    rw [there, Option.map_some, eq_comm, Option.map_eq_some_iff] at same
    obtain ⟨n, hn, held⟩ := same
    rw [hn, content_eq_some.1 held]
  · intro there
    rw [there, Option.map_some, Option.map_eq_some_iff] at same
    obtain ⟨n, hn, held⟩ := same
    rw [hn, content_eq_some.1 held]

theorem SameBut.exists_directory (h : SameBut place top top') (elsewhere : p ≠ place)
    (there : top.at? p = some (.directory entries)) :
    ∃ entries', top'.at? p = some (.directory entries') := by
  have same := h p elsewhere
  rw [there, Option.map_some, Option.map_eq_some_iff] at same
  obtain ⟨n, hn, held⟩ := same
  obtain ⟨entries', rfl⟩ := content_eq_none.1 held
  exact ⟨entries', hn⟩

/-- **What is put at a place where no directory is changes that place alone.** -/
theorem sameBut_put (leaf : node.IsLeaf) (free : ∀ below, top.at? place ≠ some (.directory below)) :
    SameBut place top (put node place top) := by
  intro p elsewhere
  induction place generalizing top p with
  | nil =>
    cases p with
    | nil => exact absurd rfl elsewhere
    | cons name p =>
      cases top with
      | file bytes => rw [put, leaf name p, isLeaf_file bytes name p]
      | directory entries => exact absurd rfl (free entries)
  | cons name place ih =>
    cases top with
    | file bytes => cases place <;> rfl
    | directory entries =>
      obtain ⟨entries', hput, hother⟩ := exists_put_cons node name place entries
      cases p with
      | nil =>
        rw [hput]
        rfl
      | cons other p =>
        by_cases same : other = name
        · subst same
          have deeper : p ≠ place := fun eq => elsewhere (by rw [eq])
          cases hname : entries.lookup other with
          | some child =>
            rw [put_cons hname, at?_cons, at?_cons, lookup_putEntry_self, hname,
              Option.bind_some, Option.bind_some]
            apply ih _ p deeper
            intro below there
            apply free below
            rw [at?_cons, hname, Option.bind_some, there]
          | none =>
            cases place with
            | cons next place => simp only [put, hname]
            | nil =>
              -- The entry is new, and nothing is below it.
              rw [put, at?_cons, at?_cons, lookup_putEntry_self, hname]
              cases p with
              | nil => exact absurd rfl deeper
              | cons next p => rw [Option.bind_some, leaf next p, Option.bind_none]
        · rw [hput, at?_cons, at?_cons, hother other same]

end Node

end Corpus
