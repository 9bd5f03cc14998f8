import Corpus.Disk.Access
import Corpus.Proofs.Disk.Put

/-!
# Disks that differ in one file

Two disks are alike but for one place (`Disk.AlikeBut`) if they have the same files and directories
at the same places, and every file holds the same bytes, except possibly the one at that place.
Giving a file other bytes makes such a pair (`Disk.alikeBut_put`).

Where a path leads has nothing to do with what files hold, so it is followed on both disks in
lockstep (`Trail.Beside`), to the same place or to the same error. **Only a path that leads to the
place itself can read anything else** (`Disk.AlikeBut.readText_eq`).
-/

set_option autoImplicit false

namespace Corpus

/-! ## Trees -/

/-- Two trees have the same files and directories, and the files the same bytes but for one. -/
structure Node.AlikeBut (place : Place) (top top' : Node) : Prop where
  shape : ∀ p, (top'.at? p).map Node.isDirectory = (top.at? p).map Node.isDirectory
  bytes : ∀ p, p ≠ place → ∀ bytes, top.at? p = some (.file bytes) → top'.at? p = some (.file bytes)

namespace Node

/-- A file with other bytes is all that differs. -/
theorem alikeBut_put {old : List UInt8} (new : List UInt8) {place : Place} {top : Node}
    (h : top.at? place = some (.file old)) :
    AlikeBut place top (put (.file new) place top) := by
  have free : ∀ below, top.at? place ≠ some (.directory below) := by
    intro below there
    rw [h] at there
    cases there
  have same := sameBut_put (isLeaf_file new) free
  constructor
  · intro p
    by_cases here : p = place
    · rw [here, at?_put_of_at? h, h]
      rfl
    · have sort : isDirectory = Option.isNone ∘ content := funext isDirectory_eq
      rw [sort, ← Option.map_map, ← Option.map_map, same p here]
  · intro p elsewhere bytes there
    exact (same.file elsewhere).2 there

end Node

/-! ## Ways down in lockstep -/

namespace Trail

/-- Two ways lead to the same place, each in its own tree. -/
structure Beside (top top' : Node) (t t' : Trail) : Prop where
  inside : t.IsIn top
  inside' : t'.IsIn top'
  place_eq : t'.place = t.place

variable {place : Place} {top top' : Node} {t t' : Trail}

theorem Beside.nil (top top' : Node) : Beside top top' [] [] :=
  ⟨trivial, trivial, rfl⟩

theorem isIn_tail {top : Node} {t : Trail} (h : t.IsIn top) : IsIn top t.tail := by
  cases t with
  | nil => trivial
  | cons entry t => exact h.2

theorem Beside.tail (h : Beside top top' t t') : Beside top top' t.tail t'.tail := by
  refine ⟨isIn_tail h.inside, isIn_tail h.inside', ?_⟩
  have shorter := congrArg List.dropLast h.place_eq
  simpa only [Trail.place, List.dropLast_reverse, List.map_tail] using shorter

/-- The two ways end at the same sort of node. -/
theorem Beside.isDirectory_eq (alike : Node.AlikeBut place top top') (h : Beside top top' t t') :
    (t'.node top').isDirectory = (t.node top).isDirectory := by
  have shape := alike.shape t.place
  rw [at?_place h.inside, ← h.place_eq, at?_place h.inside'] at shape
  exact Option.some.inj shape

/-- Where one of the two ways can go on by a name, so can the other. -/
theorem Beside.map_child?_eq (alike : Node.AlikeBut place top top') (h : Beside top top' t t')
    (name : String) :
    ((t'.node top').child? name).map Node.isDirectory =
      ((t.node top).child? name).map Node.isDirectory := by
  have at_name : ∀ n : Node, n.at? [name] = n.child? name := by
    intro n
    rw [Node.at?]
    cases n.child? name <;> rfl
  have shape := alike.shape (t.place ++ [name])
  rwa [Node.at?_append, Node.at?_append, at?_place h.inside, ← h.place_eq, at?_place h.inside',
    Option.bind_some, Option.bind_some, at_name, at_name] at shape

theorem Beside.cons (h : Beside top top' t t') {name : String} {n n' : Node}
    (child : (t.node top).child? name = some n) (child' : (t'.node top').child? name = some n') :
    Beside top top' ((name, n) :: t) ((name, n') :: t') := by
  refine ⟨⟨child, h.inside⟩, ⟨child', h.inside'⟩, ?_⟩
  have before : (t'.map Prod.fst).reverse = (t.map Prod.fst).reverse := h.place_eq
  simp only [Trail.place, List.map_cons, List.reverse_cons, before]

/-- Two attempts to go on end in the same error, or beside each other again. -/
def BothReach (top top' : Node) (r r' : Except DiskError Trail) : Prop :=
  (∃ e, r = .error e ∧ r' = .error e) ∨ ∃ t t', r = .ok t ∧ r' = .ok t' ∧ Beside top top' t t'

theorem Beside.step (alike : Node.AlikeBut place top top') (h : Beside top top' t t')
    (stretch : String) :
    BothReach top top' (Disk.step top t stretch) (Disk.step top' t' stretch) := by
  have sort := h.isDirectory_eq alike
  have below := h.map_child?_eq alike stretch
  unfold Disk.step
  cases hnode : t.node top with
  | file bytes =>
    cases hnode' : t'.node top' with
    | file bytes' => exact .inl ⟨_, rfl, rfl⟩
    | directory entries' =>
      rw [hnode, hnode'] at sort
      cases sort
  | directory entries =>
    cases hnode' : t'.node top' with
    | file bytes' =>
      rw [hnode, hnode'] at sort
      cases sort
    | directory entries' =>
      rw [hnode, hnode', Node.child?, Node.child?] at below
      dsimp only
      split
      · exact .inr ⟨_, _, rfl, rfl, h⟩
      · split
        · exact .inr ⟨_, _, rfl, rfl, h.tail⟩
        · split
          · exact .inl ⟨_, rfl, rfl⟩
          · cases hchild : entries.lookup stretch with
            | none =>
              rw [hchild, Option.map_none, Option.map_eq_none_iff] at below
              rw [below]
              exact .inl ⟨_, rfl, rfl⟩
            | some n =>
              rw [hchild, Option.map_some, Option.map_eq_some_iff] at below
              obtain ⟨n', hchild', -⟩ := below
              rw [hchild']
              exact .inr ⟨_, _, rfl, rfl, h.cons (hnode ▸ hchild) (hnode' ▸ hchild')⟩

theorem bothReach_walk (alike : Node.AlikeBut place top top') (steps : List String) :
    BothReach top top' (Disk.walk top steps) (Disk.walk top' steps) := by
  unfold Disk.walk
  have any : ∀ {t t'}, Beside top top' t t' →
      BothReach top top' (steps.foldlM (Disk.step top) t) (steps.foldlM (Disk.step top') t') := by
    induction steps with
    | nil => exact fun h => .inr ⟨_, _, rfl, rfl, h⟩
    | cons stretch steps ih =>
      intro t t' h
      rw [List.foldlM_cons, List.foldlM_cons]
      obtain ⟨e, here, here'⟩ | ⟨u, u', here, here', beside⟩ := h.step alike stretch
      · rw [here, here']
        exact .inl ⟨e, rfl, rfl⟩
      · rw [here, here']
        exact ih beside
  exact any (.nil top top')

end Trail

/-! ## Disks -/

namespace Disk

/-- Two disks on which everything is the same but for the bytes of one file. -/
structure AlikeBut (place : Place) (d d' : Disk) : Prop where
  home : d'.home = d.home
  tree : Node.AlikeBut place d.tree d'.tree

/-- The place where one gets to by following a path. -/
def placeOf (d : Disk) (p : Path) : Except DiskError Place := do
  let r ← d.route p
  let there ← walk d.tree r.steps
  pure there.place

def LeadsTo (d : Disk) (p : Path) (place : Place) : Prop :=
  d.placeOf p = .ok place

/-- The disk with other bytes in one file. -/
theorem alikeBut_put {d : Disk} {place : Place} {old : List UInt8}
    (h : d.tree.at? place = some (.file old)) (new : List UInt8) :
    d.AlikeBut place { d with tree := Node.put (.file new) place d.tree } :=
  ⟨rfl, Node.alikeBut_put new h⟩

theorem AlikeBut.route_eq {place : Place} {d d' : Disk} (h : AlikeBut place d d') (p : Path) :
    d'.route p = d.route p := by
  unfold route
  rw [h.home]

/-- A path that does not lead to the place where the disks differ reads the same on both, or fails
for the same reason. -/
theorem AlikeBut.read_eq {place : Place} {d d' : Disk} (h : AlikeBut place d d') {p : Path}
    (elsewhere : ¬ d.LeadsTo p place) : d'.read p = d.read p := by
  unfold read find
  rw [h.route_eq]
  cases hroute : d.route p with
  | error e => rfl
  | ok r =>
    simp only [bind, Except.bind]
    obtain ⟨e, here, here'⟩ | ⟨t, t', here, here', beside⟩ := Trail.bothReach_walk h.tree r.steps
    · rw [here, here']
    · rw [here, here']
      have other : t.place ≠ place := by
        intro same
        refine elsewhere ?_
        simp only [LeadsTo, placeOf, hroute, here, bind, Except.bind, pure, Except.pure, same]
      dsimp only
      cases hnode : t.node d.tree with
      | file bytes =>
        have same := h.tree.bytes t.place other bytes (hnode ▸ Trail.at?_place beside.inside)
        rw [← beside.place_eq, Trail.at?_place beside.inside'] at same
        rw [Option.some.inj same]
      | directory entries =>
        have sort := beside.isDirectory_eq h.tree
        cases hnode' : t'.node d'.tree with
        | file bytes' =>
          rw [hnode, hnode'] at sort
          cases sort
        | directory entries' => cases r.wantsDirectory <;> rfl

theorem AlikeBut.readText_eq {place : Place} {d d' : Disk} (h : AlikeBut place d d') {p : Path}
    (elsewhere : ¬ d.LeadsTo p place) : d'.readText p = d.readText p := by
  unfold readText
  rw [h.read_eq elsewhere]

end Disk

end Corpus
