import Corpus.Proofs.Path.Components

/-!
# What a tree is, entry orders apart

The order in which a directory lists its entries means nothing, so a tree is what is at its places:
`Node.Same` compares two trees place by place. That a disk answers the same on both
(`Disk.find_of_same`) needs no more.

The other notion says how such trees come about: `Node.Relisted` is one tree with the entries of
any of its directories put into another order. It is finer only where entries share a name, because
then the first one hides the others; **where names are unique, a relisted tree is the same tree**
(`Node.Relisted.same`).
-/

set_option autoImplicit false

namespace Corpus

namespace Node

/-! ## Entries and places -/

/-- Induction on a tree: a directory has what all its entries have. -/
theorem induction {motive : Node → Prop} (file : ∀ bytes, motive (.file bytes))
    (directory : ∀ entries, (∀ entry ∈ entries, motive entry.2) → motive (.directory entries))
    (n : Node) : motive n := by
  refine @Node.rec motive (fun entries => ∀ entry ∈ entries, motive entry.2)
    (fun entry => motive entry.2) file directory ?_ ?_ ?_ n
  · exact fun _ h => absurd h List.not_mem_nil
  · exact fun entry entries first rest => List.forall_mem_cons.2 ⟨first, rest⟩
  · exact fun _ _ h => h

variable {n n' child top : Node} {name : String} {place : Place} {entries : List (String × Node)}

theorem proper_directory :
    (directory entries).Proper ↔
      (entries.map Prod.fst).Nodup ∧ ∀ entry ∈ entries, entry.2.Proper := by
  have all : ProperEntries entries ↔ ∀ entry ∈ entries, entry.2.Proper := by
    induction entries with
    | nil => simp [ProperEntries]
    | cons entry entries ih => simp [ProperEntries, ih]
  rw [Proper, all]

/-- Where names are unique, every entry is found under its name. -/
theorem lookup_eq_some_iff (unique : (entries.map Prod.fst).Nodup) :
    entries.lookup name = some child ↔ (name, child) ∈ entries := by
  induction entries with
  | nil => simp
  | cons entry entries ih =>
    obtain ⟨first, n⟩ := entry
    obtain ⟨fresh, unique⟩ := List.nodup_cons.1 unique
    rw [List.lookup_cons, List.mem_cons, Prod.mk.injEq]
    by_cases same : name = first
    · have absent : (first, child) ∉ entries := fun h => fresh (List.mem_map.2 ⟨_, h, rfl⟩)
      simp [same, absent, eq_comm]
    · rw [beq_false_of_ne same, ih unique]
      simp [same]

theorem at?_directory (unique : (entries.map Prod.fst).Nodup) :
    (directory entries).at? (name :: place) = some n ↔
      ∃ child, (name, child) ∈ entries ∧ child.at? place = some n := by
  rw [at?_cons, Option.bind_eq_some_iff]
  simp only [lookup_eq_some_iff unique]

theorem Proper.at? (h : top.Proper) (hn : top.at? place = some n) : n.Proper := by
  induction place generalizing top with
  | nil => exact Option.some.inj hn ▸ h
  | cons name place ih =>
    cases top with
    | file bytes => cases hn
    | directory entries =>
      obtain ⟨unique, below⟩ := proper_directory.1 h
      obtain ⟨child, hchild, hn⟩ := (at?_directory unique).1 hn
      exact ih (below _ hchild) hn

mutual

/-- All entries of the tree are called by names. -/
def Spelled : Node → Prop
  | .file _ => True
  | .directory entries => SpelledEntries entries

def SpelledEntries : List (String × Node) → Prop
  | [] => True
  | (name, n) :: entries => Path.IsName name ∧ n.Spelled ∧ SpelledEntries entries

end

theorem spelled_directory :
    (directory entries).Spelled ↔ ∀ entry ∈ entries, Path.IsName entry.1 ∧ entry.2.Spelled := by
  rw [Spelled]
  induction entries with
  | nil => simp [SpelledEntries]
  | cons entry entries ih => simp [SpelledEntries, ih, and_assoc]

theorem mem_of_lookup (h : entries.lookup name = some child) : (name, child) ∈ entries := by
  obtain ⟨before, behind, rfl, -⟩ := List.lookup_eq_some_iff.1 h
  exact List.mem_append_right before List.mem_cons_self

/-- Every place of a spelled tree is one of names, and what is there is spelled. -/
theorem Spelled.at? (h : top.Spelled) (hn : top.at? place = some n) :
    (∀ name ∈ place, Path.IsName name) ∧ n.Spelled := by
  induction place generalizing top with
  | nil => exact ⟨fun _ h => absurd h List.not_mem_nil, Option.some.inj hn ▸ h⟩
  | cons name place ih =>
    cases top with
    | file bytes => cases hn
    | directory entries =>
      rw [at?_cons] at hn
      obtain ⟨child, hchild, hn⟩ := Option.bind_eq_some_iff.1 hn
      obtain ⟨hname, below⟩ := spelled_directory.1 h _ (mem_of_lookup hchild)
      obtain ⟨names, spelled⟩ := ih below hn
      exact ⟨List.forall_mem_cons.2 ⟨hname, names⟩, spelled⟩

/-! ## The same tree -/

/-- Two trees have the same directories and the same files with the same bytes. -/
def Same (n n' : Node) : Prop :=
  ∀ place, (n'.at? place).map content = (n.at? place).map content

namespace Same

theorem symm (h : n.Same n') : n'.Same n :=
  fun place => (h place).symm

theorem file (h : n.Same n') {bytes : List UInt8} (hn : n.at? place = some (.file bytes)) :
    n'.at? place = some (.file bytes) := by
  have here := h place
  rw [hn] at here
  obtain ⟨there, hthere, hbytes⟩ := Option.map_eq_some_iff.1 here
  cases there with
  | file bytes' => rwa [← Option.some.inj hbytes]
  | directory entries => cases hbytes

theorem alikeBut (h : n.Same n') (place : Place) : AlikeBut place n n' where
  shape p := by
    have sort : isDirectory = Option.isNone ∘ content := funext isDirectory_eq
    rw [sort, ← Option.map_map, ← Option.map_map, h p]
  bytes _ _ _ := h.file

end Same

/-- Some directories of a tree list their entries in another order. -/
inductive Relisted : Node → Node → Prop where
  | refl (n : Node) : Relisted n n
  | trans {n n' n'' : Node} (first : Relisted n n') (second : Relisted n' n'') : Relisted n n''
  | reordered {entries entries' : List (String × Node)} (h : entries.Perm entries') :
      Relisted (.directory entries) (.directory entries')
  | inside (before : List (String × Node)) (name : String) {n n' : Node} (h : Relisted n n')
      (behind : List (String × Node)) :
      Relisted (.directory (before ++ (name, n) :: behind))
        (.directory (before ++ (name, n') :: behind))

namespace Relisted

theorem proper (h : Relisted n n') (hn : n.Proper) : n'.Proper := by
  induction h with
  | refl n => exact hn
  | trans _ _ ih ih' => exact ih' (ih hn)
  | reordered perm =>
    obtain ⟨unique, below⟩ := proper_directory.1 hn
    exact proper_directory.2 ⟨(perm.map Prod.fst).nodup_iff.1 unique,
      fun entry hentry => below entry (perm.mem_iff.2 hentry)⟩
  | inside before name _ behind ih =>
    obtain ⟨unique, below⟩ := proper_directory.1 hn
    refine proper_directory.2 ⟨by simpa using unique, ?_⟩
    simp only [List.forall_mem_append, List.forall_mem_cons] at below ⊢
    exact ⟨below.1, ih below.2.1, below.2.2⟩

theorem spelled (h : Relisted n n') (hn : n.Spelled) : n'.Spelled := by
  induction h with
  | refl n => exact hn
  | trans _ _ ih ih' => exact ih' (ih hn)
  | reordered perm =>
    exact spelled_directory.2 fun entry hentry =>
      spelled_directory.1 hn entry (perm.mem_iff.2 hentry)
  | inside before name _ behind ih =>
    have spelled := spelled_directory.1 hn
    refine spelled_directory.2 ?_
    simp only [List.forall_mem_append, List.forall_mem_cons] at spelled ⊢
    exact ⟨spelled.1, ⟨spelled.2.1.1, ih spelled.2.1.2⟩, spelled.2.2⟩

/-- **The order of entries says nothing about a tree in which names are unique.** -/
theorem same (h : Relisted n n') (hn : n.Proper) : n.Same n' := by
  induction h with
  | refl n => exact fun _ => rfl
  | trans first _ ih ih' => exact fun place => (ih' (first.proper hn) place).trans (ih hn place)
  | @reordered entries entries' perm =>
    obtain ⟨unique, -⟩ := proper_directory.1 hn
    have unique' := (perm.map Prod.fst).nodup_iff.1 unique
    intro place
    cases place with
    | nil => rfl
    | cons name place =>
      have found : entries'.lookup name = entries.lookup name :=
        Option.ext fun child => by
          rw [lookup_eq_some_iff unique, lookup_eq_some_iff unique', perm.mem_iff]
      rw [at?_cons, at?_cons, found]
  | inside before other h behind ih =>
    obtain ⟨-, below⟩ := proper_directory.1 hn
    have child := ih (below _ (List.mem_append_right before List.mem_cons_self))
    intro place
    cases place with
    | nil => rfl
    | cons name place =>
      rw [at?_cons, at?_cons, List.lookup_append, List.lookup_append, List.lookup_cons,
        List.lookup_cons]
      cases before.lookup name with
      | some _ => rfl
      | none =>
        cases name == other with
        | true => exact child place
        | false => rfl

end Relisted

end Node

namespace Disk

variable {d d' : Disk} {p : Path} {n : Node}

/-- Where the trees are the same, a path leads to the same in both. -/
theorem find_of_same (home : d'.home = d.home) (same : d.tree.Same d'.tree)
    (h : d.find p = .ok n) : ∃ n', d'.find p = .ok n' ∧ n.Same n' := by
  obtain ⟨r, t, hroute, hwalk, rfl, sort⟩ := exists_of_find h
  have alike : d.AlikeBut [] d' := ⟨home, same.alikeBut []⟩
  obtain ⟨e, herror, -⟩ | ⟨u, t', hwalk', there, beside⟩ := Trail.bothReach_walk alike.tree r.steps
  · rw [hwalk] at herror
    cases herror
  · obtain rfl := Except.ok.inj (hwalk.symm.trans hwalk')
    refine ⟨t'.node d'.tree, ?_, fun place => ?_⟩
    · have sort' := beside.isDirectory_eq alike.tree
      simp only [find, alike.route_eq, hroute, there, bind, Except.bind, sort']
      rw [if_neg (by simpa using sort)]
    · have below := same (t.place ++ place)
      rwa [Node.at?_append, Node.at?_append, Trail.at?_place beside.inside, ← beside.place_eq,
        Trail.at?_place beside.inside', Option.bind_some, Option.bind_some] at below

/-- What is found in a tree is at a place of it. -/
theorem exists_at?_of_find (h : d.find p = .ok n) : ∃ place, d.tree.at? place = some n := by
  obtain ⟨r, t, -, hwalk, rfl, -⟩ := exists_of_find h
  exact ⟨t.place, Trail.at?_place (Trail.isIn_walk hwalk)⟩

theorem proper_of_find (proper : d.tree.Proper) (h : d.find p = .ok n) : n.Proper := by
  obtain ⟨place, there⟩ := exists_at?_of_find h
  exact proper.at? there

theorem spelled_of_find (spelled : d.tree.Spelled) (h : d.find p = .ok n) : n.Spelled := by
  obtain ⟨place, there⟩ := exists_at?_of_find h
  exact (spelled.at? there).2

end Disk

end Corpus
