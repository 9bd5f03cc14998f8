import Corpus.Proofs.Disk.Alike
import Mathlib.Data.List.Induction

/-!
# What a write leaves

A file holds what was last written to it (`Disk.read_writeText`). A write may make a new entry, so
the tree before it and the tree after it need not have the same places; but **every directory is
still one** (`Node.KeepsDirectories`), and a way to a file leads through directories only, so the
way that the write took is still there (`Trail.exists_walk_put`).
-/

set_option autoImplicit false

namespace Corpus

open Corpus.Text

/-! ## Trees -/

namespace Node

/-- What is a directory in the first tree is one in the second, though it may hold other things. -/
def KeepsDirectories (top top' : Node) : Prop :=
  ∀ p entries, top.at? p = some (.directory entries) →
    ∃ entries', top'.at? p = some (.directory entries')

/-- What is put where no directory is leaves all directories. -/
theorem keepsDirectories_put {node : Node} (leaf : node.IsLeaf) {place : Place} {top : Node}
    (h : ∀ entries, top.at? place ≠ some (.directory entries)) :
    KeepsDirectories top (put node place top) := by
  intro p entries there
  have elsewhere : p ≠ place := by
    intro here
    rw [here] at there
    exact h entries there
  exact (sameBut_put leaf h).exists_directory elsewhere there

end Node

/-! ## Ways -/

namespace Trail

variable {top top' : Node} {t t' u : Trail} {stretch : String}

/-- What a step can do. Nothing but a directory can be stepped out of. -/
theorem step_cases (h : Disk.step top t stretch = .ok u) :
    ∃ entries, t.node top = .directory entries ∧
      (stretch = "." ∧ u = t ∨ stretch = ".." ∧ u = t.tail ∨
        (stretch ≠ "." ∧ stretch ≠ "..") ∧ stretch.utf8ByteSize ≤ Disk.maxName ∧
          ∃ n, entries.lookup stretch = some n ∧ u = (stretch, n) :: t) := by
  unfold Disk.step at h
  cases hnode : t.node top with
  | file bytes =>
    rw [hnode] at h
    cases h
  | directory entries =>
    refine ⟨entries, rfl, ?_⟩
    rw [hnode] at h
    dsimp only at h
    by_cases stay : stretch = "."
    · rw [if_pos stay] at h
      exact .inl ⟨stay, (Except.ok.inj h).symm⟩
    by_cases up : stretch = ".."
    · rw [if_neg stay, if_pos up] at h
      exact .inr (.inl ⟨up, (Except.ok.inj h).symm⟩)
    by_cases long : Disk.maxName < stretch.utf8ByteSize
    · rw [if_neg stay, if_neg up, if_pos long] at h
      cases h
    rw [if_neg stay, if_neg up, if_neg long] at h
    cases hn : entries.lookup stretch with
    | none =>
      rw [hn] at h
      cases h
    | some n =>
      rw [hn] at h
      exact .inr (.inr ⟨⟨stay, up⟩, Nat.not_lt.1 long, n, rfl, (Except.ok.inj h).symm⟩)

theorem walk_concat (steps : List String) (stretch : String) :
    Disk.walk top (steps ++ [stretch]) = .ok u ↔
      ∃ t, Disk.walk top steps = .ok t ∧ Disk.step top t stretch = .ok u := by
  unfold Disk.walk
  rw [List.foldlM_append]
  cases List.foldlM (Disk.step top) [] steps with
  | error e => simp [bind, Except.bind]
  | ok t =>
    cases hstep : Disk.step top t stretch <;> simp [bind, Except.bind, pure, Except.pure, hstep]

theorem isIn_walk {steps : List String} (h : Disk.walk top steps = .ok t) : t.IsIn top := by
  induction steps using List.reverseRecOn generalizing t with
  | nil =>
    cases h
    trivial
  | append_singleton steps stretch ih =>
    obtain ⟨s, hwalk, hstep⟩ := (walk_concat steps stretch).1 h
    have inside := ih hwalk
    obtain ⟨entries, hnode, ⟨-, rfl⟩ | ⟨-, rfl⟩ | ⟨-, -, n, hn, rfl⟩⟩ := step_cases hstep
    · exact inside
    · exact isIn_tail inside
    · refine ⟨?_, inside⟩
      rwa [hnode, Node.child?]

/-- The way up from a directory ends at a directory. -/
theorem exists_directory_tail {entries : List (String × Node)} (inside : t.IsIn top)
    (h : t.node top = .directory entries) :
    ∃ above, Trail.node top t.tail = .directory above := by
  cases t with
  | nil => exact ⟨entries, h⟩
  | cons entry t =>
    obtain ⟨child, -⟩ := inside
    cases hnode : Trail.node top t with
    | file bytes =>
      rw [hnode] at child
      cases child
    | directory above => exact ⟨above, hnode⟩

/-- What a way leads to where directories are kept. -/
theorem Beside.exists_directory (keeps : Node.KeepsDirectories top top')
    (h : Beside top top' t t') {entries : List (String × Node)}
    (hnode : t.node top = .directory entries) :
    ∃ entries', t'.node top' = .directory entries' := by
  have here := at?_place h.inside
  rw [hnode] at here
  obtain ⟨entries', here'⟩ := keeps _ _ here
  rw [← h.place_eq, at?_place h.inside'] at here'
  exact ⟨entries', Option.some.inj here'⟩

/-- A step from directory to directory can be taken where directories are kept. -/
theorem Beside.exists_step (keeps : Node.KeepsDirectories top top') (h : Beside top top' t t')
    {entries : List (String × Node)} (hstep : Disk.step top t stretch = .ok u)
    (hnode : u.node top = .directory entries) :
    ∃ u', Disk.step top' t' stretch = .ok u' ∧ Beside top top' u u' := by
  obtain ⟨here, hhere, kind⟩ := step_cases hstep
  obtain ⟨here', hhere'⟩ := h.exists_directory keeps hhere
  unfold Disk.step
  rw [hhere']
  obtain ⟨rfl, rfl⟩ | ⟨rfl, rfl⟩ | ⟨⟨not_stay, not_up⟩, short, n, hn, rfl⟩ := kind
  · exact ⟨t', rfl, h⟩
  · exact ⟨t'.tail, rfl, h.tail⟩
  · have below : top.at? (t.place ++ [stretch]) = some (.directory entries) := by
      rw [Node.at?_append, at?_place h.inside, hhere, Option.bind_some, Node.at?_cons, hn]
      exact congrArg some hnode
    obtain ⟨entries', below'⟩ := keeps _ _ below
    rw [Node.at?_append, ← h.place_eq, at?_place h.inside', hhere', Option.bind_some,
      Node.at?_cons] at below'
    obtain ⟨n', hn', -⟩ := Option.bind_eq_some_iff.1 below'
    refine ⟨(stretch, n') :: t', ?_, h.cons (by rwa [hhere]) (by rwa [hhere'])⟩
    simp only [if_neg not_stay, if_neg not_up, if_neg (Nat.not_lt.2 short), hn']

theorem exists_walk (keeps : Node.KeepsDirectories top top') {steps : List String}
    {entries : List (String × Node)} (hwalk : Disk.walk top steps = .ok u)
    (hnode : u.node top = .directory entries) :
    ∃ u', Disk.walk top' steps = .ok u' ∧ Beside top top' u u' := by
  induction steps using List.reverseRecOn generalizing u entries with
  | nil =>
    cases hwalk
    exact ⟨[], rfl, .nil top top'⟩
  | append_singleton steps stretch ih =>
    obtain ⟨t, hbefore, hstep⟩ := (walk_concat steps stretch).1 hwalk
    obtain ⟨above, habove, -⟩ := step_cases hstep
    obtain ⟨t', hbefore', beside⟩ := ih hbefore habove
    obtain ⟨u', hstep', beside'⟩ := beside.exists_step keeps hstep hnode
    exact ⟨u', (walk_concat steps stretch).2 ⟨t', hbefore', hstep'⟩, beside'⟩

/-- The way to what is put into a directory: through the directories that were there before. -/
theorem exists_walk_put {node : Node} (leaf : node.IsLeaf) {steps : List String} {name : String}
    {entries : List (String × Node)} (hwalk : Disk.walk top steps = .ok t)
    (hnode : t.node top = .directory entries) (isName : name ≠ "." ∧ name ≠ "..")
    (short : name.utf8ByteSize ≤ Disk.maxName)
    (free : ∀ below, top.at? (t.place ++ [name]) ≠ some (.directory below)) :
    ∃ t', Disk.walk (Node.put node (t.place ++ [name]) top) (steps ++ [name]) =
      .ok ((name, node) :: t') ∧ Trail.place t' = t.place := by
  have keeps := Node.keepsDirectories_put leaf free
  obtain ⟨t', hwalk', beside⟩ := exists_walk keeps hwalk hnode
  obtain ⟨entries', hnode'⟩ := beside.exists_directory keeps hnode
  have here := at?_place (isIn_walk hwalk)
  rw [hnode] at here
  have here' := at?_place beside.inside'
  rw [beside.place_eq, hnode'] at here'
  have put := Node.at?_put_self node name here
  rw [Node.at?_append, here', Option.bind_some, Node.at?_cons] at put
  obtain ⟨n, hn, there⟩ := Option.bind_eq_some_iff.1 put
  obtain rfl := Option.some.inj there
  refine ⟨t', (walk_concat steps name).2 ⟨t', hwalk', ?_⟩, beside.place_eq⟩
  unfold Disk.step
  simp only [hnode', if_neg isName.1, if_neg isName.2, if_neg (Nat.not_lt.2 short), hn]

end Trail

namespace Disk

variable {d d' : Disk} {p : Path} {bytes : List UInt8}

/-- A sequence of two that succeeds. -/
theorem exists_of_bind_eq_ok {ε α β : Type} {first : Except ε α} {next : α → Except ε β} {b : β}
    (h : first >>= next = .ok b) : ∃ a, first = .ok a ∧ next a = .ok b := by
  cases first with
  | error e => cases h
  | ok a => exact ⟨a, rfl, h⟩

/-- Where a new entry would be put: into a directory that the steps before the last one lead to. -/
theorem newEntry_cases {r : Route} {place : Place} {entries : List (String × Node)} {name : String}
    (h : d.newEntry r = .ok (some (place, entries, name))) :
    ∃ steps way, r.steps = steps ++ [name] ∧ walk d.tree steps = .ok way ∧
      way.node d.tree = .directory entries ∧ (name ≠ "." ∧ name ≠ "..") ∧ way.place = place := by
  unfold newEntry at h
  cases hlast : r.steps.getLast? with
  | none =>
    rw [hlast] at h
    cases h
  | some last =>
    rw [hlast] at h
    dsimp only at h
    obtain ⟨way, hway, h⟩ := exists_of_bind_eq_ok h
    cases hnode : way.node d.tree with
    | file bytes =>
      rw [hnode] at h
      cases h
    | directory below =>
      rw [hnode] at h
      dsimp only at h
      split at h
      · cases h
      · rename_i isName
        obtain ⟨rfl, rfl, rfl⟩ : way.place = place ∧ below = entries ∧ last = name := by
          simpa using h
        obtain ⟨steps, hsteps⟩ := List.getLast?_eq_some_iff.1 hlast
        refine ⟨r.steps.dropLast, way, ?_, hway, hnode, by simpa using isName, rfl⟩
        rw [hsteps, List.dropLast_concat]

/-! ## Places that a file can be written to -/

/-- Where a path leads to a name in a directory, at which a file is or can be made. -/
structure Target (d : Disk) (p : Path) where
  steps : List String
  name : String
  way : Trail
  entries : List (String × Node)
  route_eq : d.route p = .ok ⟨steps ++ [name], false⟩
  walk_eq : walk d.tree steps = .ok way
  node_eq : way.node d.tree = .directory entries
  isName : name ≠ "." ∧ name ≠ ".."
  short : name.utf8ByteSize ≤ maxName
  free : ∀ below, entries.lookup name ≠ some (.directory below)

namespace Target

variable (g : d.Target p)

def place : Place :=
  g.way.place ++ [g.name]

/-- The disk with a file at that place. -/
def written (bytes : List UInt8) : Disk :=
  { d with tree := Node.put (.file bytes) g.place d.tree }

theorem at?_directory : d.tree.at? g.way.place = some (.directory g.entries) := by
  rw [Trail.at?_place (Trail.isIn_walk g.walk_eq), g.node_eq]

theorem write_eq (bytes : List UInt8) : d.write p bytes = .ok (g.written bytes) := by
  have entry : d.newEntry ⟨g.steps ++ [g.name], false⟩ =
      .ok (some (g.way.place, g.entries, g.name)) := by
    unfold newEntry
    simp only [List.getLast?_concat, List.dropLast_concat, bind, Except.bind, g.walk_eq, g.node_eq,
      g.isName.1, g.isName.2, decide_false, Bool.or_self, Bool.false_eq_true, if_false]
  unfold write
  simp only [g.route_eq, entry, bind, Except.bind, Bool.false_eq_true, if_false,
    if_neg (Nat.not_lt.2 g.short)]
  cases hn : g.entries.lookup g.name with
  | none => rfl
  | some n =>
    cases n with
    | file old => rfl
    | directory below => exact absurd hn (g.free below)

theorem at?_place_ne_directory : ∀ entries, d.tree.at? g.place ≠ some (.directory entries) := by
  intro below h
  rw [place, Node.at?_append, g.at?_directory, Option.bind_some, Node.at?_cons] at h
  obtain ⟨n, hn, here⟩ := Option.bind_eq_some_iff.1 h
  obtain rfl := Option.some.inj here
  exact g.free below hn

/-- The way to what was written. -/
theorem exists_walk_written (bytes : List UInt8) :
    ∃ way, walk (g.written bytes).tree (g.steps ++ [g.name]) =
      .ok ((g.name, .file bytes) :: way) ∧ Trail.place way = g.way.place :=
  Trail.exists_walk_put (Node.isLeaf_file bytes) g.walk_eq g.node_eq g.isName g.short
    g.at?_place_ne_directory

theorem read_written (bytes : List UInt8) : (g.written bytes).read p = .ok bytes := by
  obtain ⟨way, hway, -⟩ := g.exists_walk_written bytes
  have route : (g.written bytes).route p = .ok ⟨g.steps ++ [g.name], false⟩ := g.route_eq
  simp only [read, find, route, hway, bind, Except.bind, Trail.node, Bool.false_and,
    Bool.false_eq_true, if_false]

end Target

theorem exists_target_of_write (h : d.write p bytes = .ok d') : Nonempty (d.Target p) := by
  unfold write at h
  obtain ⟨r, hroute, hthen⟩ := exists_of_bind_eq_ok h
  obtain ⟨_ | ⟨place, entries, name⟩, hentry, hput⟩ := exists_of_bind_eq_ok hthen
  · cases hput
  · obtain ⟨steps, way, hsteps, hway, hnode, isName, -⟩ := newEntry_cases hentry
    dsimp only at hput
    split at hput
    · cases hput
    split at hput
    · cases hput
    rename_i wants short
    obtain ⟨_, wantsDirectory⟩ := r
    obtain rfl : _ = steps ++ [name] := hsteps
    obtain rfl : wantsDirectory = false := eq_false_of_ne_true wants
    refine ⟨⟨steps, name, way, entries, hroute, hway, hnode, isName, Nat.not_lt.1 short, ?_⟩⟩
    intro below hbelow
    rw [hbelow] at hput
    cases hput

/-- How a text is written: where the directories around it could be made. -/
theorem exists_written_of_writeText {text : List Char} (h : d.writeText p text = (.ok (), d')) :
    ∃ made, d.makeDirectories p.around = (.ok (), made) ∧
      ∃ g : made.Target p, d' = g.written (Utf8.encode text) := by
  unfold writeText at h
  split at h
  · cases h
  · rename_i made hmade
    refine ⟨made, hmade, ?_⟩
    split at h
    · rename_i written hwrite
      obtain ⟨-, rfl⟩ := Prod.mk.inj h
      obtain ⟨g⟩ := exists_target_of_write hwrite
      rw [g.write_eq] at hwrite
      exact ⟨g, (Except.ok.inj hwrite).symm⟩
    · cases h

/-- A file holds the text that was written to it, and nothing is left of what it held before. -/
theorem read_writeText {text : List Char} (h : d.writeText p text = (.ok (), d')) :
    d'.read p = .ok (Utf8.encode text) := by
  obtain ⟨made, -, g, rfl⟩ := exists_written_of_writeText h
  exact g.read_written (Utf8.encode text)

/-- What cannot be written cannot be written with other bytes, for the same reason. -/
theorem write_eq_error {e : DiskError} (h : d.write p bytes = .error e) (bytes' : List UInt8) :
    d.write p bytes' = .error e := by
  unfold write at h ⊢
  cases hroute : d.route p with
  | error e => rwa [hroute] at h
  | ok r =>
    simp only [hroute, bind, Except.bind] at h ⊢
    cases hentry : d.newEntry r with
    | error e => rwa [hentry] at h
    | ok entry =>
      obtain _ | ⟨place, entries, name⟩ := entry
      · rwa [hentry] at h
      · rw [hentry] at h
        dsimp only at h ⊢
        split at h
        · rename_i wants
          rwa [if_pos wants]
        · rename_i wants
          rw [if_neg wants]
          split at h
          · rename_i long
            rwa [if_pos long]
          · rename_i short
            rw [if_neg short]
            split at h
            · exact h
            · cases h

/-- Whether a text can be written has nothing to do with the text. -/
theorem fst_writeText (text text' : List Char) :
    (d.writeText p text').1 = (d.writeText p text).1 := by
  unfold writeText
  split
  · rfl
  · rename_i made _
    cases hwrite : made.write p (Utf8.encode text) with
    | error e => rw [write_eq_error hwrite]
    | ok written =>
      obtain ⟨g⟩ := exists_target_of_write hwrite
      rw [g.write_eq]

end Disk

end Corpus
