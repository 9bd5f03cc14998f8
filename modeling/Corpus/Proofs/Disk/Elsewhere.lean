import Corpus.Proofs.Disk.Tree

/-!
# Changes at one place

A file that is written is put at a place where no directory is, and at other places the tree is as
it was (`Node.SameBut`). The place may be a new one. So this is less than `Node.AlikeBut` asks for,
as a path that led nowhere may lead to the place now, and it is enough for paths that lead
elsewhere:

> **a way to another place is a way to it in both trees** (`Trail.exists_walk_elsewhere`).

The way cannot pass through the place, because one only goes on from directories and there is none.
-/

set_option autoImplicit false

namespace Corpus

open Corpus.Text

/-! ## Trees -/

namespace Node

variable {node top : Node} {place : Place}

theorem Proper.put (h : top.Proper) (hnode : node.Proper) (place : Place) :
    (put node place top).Proper := by
  apply put_induction hnode _ _ h
  · intro name n entries _ hn hentries
    obtain ⟨unique, below⟩ := proper_directory.1 hentries
    refine proper_directory.2 ⟨unique_putEntry unique, fun entry hentry => ?_⟩
    rcases mem_putEntry hentry with rfl | old
    · exact hn
    · exact below entry old
  · intro name n entries hname hentries
    exact (proper_directory.1 hentries).2 _ (mem_of_lookup hname)

theorem Spelled.put (h : top.Spelled) (hnode : node.Spelled)
    (names : ∀ name ∈ place, Path.IsName name) : (put node place top).Spelled := by
  apply put_induction hnode _ _ h
  · intro name n entries called hn hentries
    refine spelled_directory.2 fun entry hentry => ?_
    rcases mem_putEntry hentry with rfl | old
    · exact ⟨names name called, hn⟩
    · exact spelled_directory.1 hentries entry old
  · intro name n entries hname hentries
    exact (spelled_directory.1 hentries _ (mem_of_lookup hname)).2

end Node

/-! ## Ways -/

namespace Trail

variable {top top' : Node} {place : Place} {t t' u : Trail}

theorem place_cons (name : String) (n : Node) (t : Trail) :
    Trail.place ((name, n) :: t) = t.place ++ [name] := by
  rw [Trail.place, List.map_cons, List.reverse_cons]
  rfl

/-- A way to another place is a way to it in a tree that is the same there. -/
theorem exists_walk_elsewhere (same : Node.SameBut place top top')
    (free : ∀ below, top.at? place ≠ some (.directory below)) {steps : List String}
    (hwalk : Disk.walk top steps = .ok u) (elsewhere : u.place ≠ place) :
    ∃ u', Disk.walk top' steps = .ok u' ∧ Beside top top' u u' := by
  induction steps using List.reverseRecOn generalizing u with
  | nil =>
    cases hwalk
    exact ⟨[], rfl, .nil top top'⟩
  | append_singleton steps stretch ih =>
    obtain ⟨t, hbefore, hstep⟩ := (walk_concat steps stretch).1 hwalk
    obtain ⟨entries, hnode, kind⟩ := step_cases hstep
    have here := at?_place (isIn_walk hbefore)
    rw [hnode] at here
    have not_there : t.place ≠ place := by
      intro there
      rw [there] at here
      exact free entries here
    obtain ⟨t', hbefore', beside⟩ := ih hbefore not_there
    obtain ⟨entries', here'⟩ := same.exists_directory not_there here
    have hnode' : t'.node top' = .directory entries' := by
      rw [← beside.place_eq, at?_place beside.inside'] at here'
      exact Option.some.inj here'
    obtain ⟨rfl, rfl⟩ | ⟨rfl, rfl⟩ | ⟨⟨not_stay, not_up⟩, short, n, hn, rfl⟩ := kind
    · refine ⟨t', (walk_concat steps ".").2 ⟨t', hbefore', ?_⟩, beside⟩
      simp only [Disk.step, hnode', if_true]
    · refine ⟨t'.tail, (walk_concat steps "..").2 ⟨t', hbefore', ?_⟩, beside.tail⟩
      simp [Disk.step, hnode']
    · have below : top.at? (t.place ++ [stretch]) = some n := by
        rw [Node.at?_append, here, Option.bind_some, Node.at?_cons, hn]
        rfl
      have below' := same (t.place ++ [stretch]) (by simpa [Trail.place] using elsewhere)
      rw [below, Node.at?_append, here', Option.bind_some, Node.at?_cons] at below'
      cases hn' : entries'.lookup stretch with
      | none =>
        rw [hn'] at below'
        cases below'
      | some n' =>
        refine ⟨(stretch, n') :: t', (walk_concat steps stretch).2 ⟨t', hbefore', ?_⟩,
          beside.cons (by rwa [hnode]) (by rwa [hnode'])⟩
        simp only [Disk.step, hnode', if_neg not_stay, if_neg not_up, if_neg (Nat.not_lt.2 short),
          hn']

end Trail

/-! ## Disks -/

namespace Disk

variable {d d' : Disk} {p : Path} {n : Node} {base place start : Place} {bytes : List UInt8}

theorem leadsTo_iff :
    d.LeadsTo p base ↔
      ∃ r t, d.route p = .ok r ∧ walk d.tree r.steps = .ok t ∧ t.place = base := by
  unfold LeadsTo placeOf
  constructor
  · intro h
    obtain ⟨r, hroute, hthen⟩ := exists_of_bind_eq_ok h
    obtain ⟨t, hwalk, hplace⟩ := exists_of_bind_eq_ok hthen
    exact ⟨r, t, hroute, hwalk, Except.ok.inj hplace⟩
  · rintro ⟨r, t, hroute, hwalk, rfl⟩
    simp only [hroute, hwalk, bind, Except.bind, pure, Except.pure]

/-- What is found by a path is at the place that the path leads to. -/
theorem exists_leadsTo_of_find (h : d.find p = .ok n) :
    ∃ base, d.LeadsTo p base ∧ d.tree.at? base = some n := by
  obtain ⟨r, t, hroute, hwalk, rfl, -⟩ := exists_of_find h
  exact ⟨t.place, leadsTo_iff.2 ⟨r, t, hroute, hwalk, rfl⟩, Trail.at?_place (Trail.isIn_walk hwalk)⟩

theorem find_of_walk {r : Route} {t : Trail} (hroute : d.route p = .ok r)
    (hwalk : walk d.tree r.steps = .ok t)
    (sort : r.wantsDirectory = true → (t.node d.tree).isDirectory = true) :
    d.find p = .ok (t.node d.tree) := by
  simp only [find, hroute, hwalk, bind, Except.bind]
  rw [if_neg (by simpa using sort)]

theorem route_of_home (home : d'.home = d.home) (p : Path) : d'.route p = d.route p := by
  unfold route
  rw [home]

/-- Where a path leads elsewhere, it leads there on both disks. -/
theorem find_elsewhere (home : d'.home = d.home) (same : Node.SameBut place d.tree d'.tree)
    (free : ∀ below, d.tree.at? place ≠ some (.directory below)) {r : Route} {t : Trail}
    (hroute : d.route p = .ok r) (hwalk : walk d.tree r.steps = .ok t)
    (sort : r.wantsDirectory = true → (t.node d.tree).isDirectory = true)
    (elsewhere : t.place ≠ place) :
    ∃ t', walk d'.tree r.steps = .ok t' ∧ Trail.Beside d.tree d'.tree t t' ∧
      d'.find p = .ok (t'.node d'.tree) := by
  obtain ⟨t', hwalk', beside⟩ := Trail.exists_walk_elsewhere same free hwalk elsewhere
  have held := same t.place elsewhere
  rw [Trail.at?_place beside.inside, ← beside.place_eq, Trail.at?_place beside.inside',
    Option.map_some, Option.map_some, Option.some.injEq] at held
  refine ⟨t', hwalk', beside, find_of_walk ((route_of_home home p).trans hroute) hwalk' ?_⟩
  rwa [Node.isDirectory_eq, held, ← Node.isDirectory_eq]

/-! ## Written files -/

/-- A path at which a file can be written ends in the name of the file. -/
theorem Target.isName_and_getLast? (g : d.Target p) :
    Path.IsName g.name ∧ p.components.getLast? = some (.name g.name) := by
  obtain ⟨before, last, split, last_ne, route_eq⟩ := exists_last g.route_eq rfl
  have steps := congrArg Route.steps route_eq
  obtain ⟨-, same⟩ := List.append_inj' steps rfl
  obtain name_eq : g.name = String.ofList last := List.singleton_inj.1 same
  have isName : Path.IsName (String.ofList last) := by
    refine ⟨?_, ?_, name_eq ▸ g.isName.1, name_eq ▸ g.isName.2⟩
    · rw [String.toList_ofList]
      apply Path.not_mem_of_mem_stretches
      rw [split]
      exact List.mem_append_right before List.mem_cons_self
    · intro nothing
      apply last_ne
      rw [← String.toList_ofList (l := last), nothing]
      rfl
  rw [name_eq]
  exact ⟨isName, Path.getLast?_components split isName⟩

/-- What is read has nothing to do with how it was found. -/
theorem read_of_find (h : d.find p = .ok (.file bytes)) : d.read p = .ok bytes := by
  simp only [read, h, bind, Except.bind]

/-- What can be read is read where it would be written. -/
theorem Target.place_eq (g : d.Target p) (h : d.read p = .ok bytes) (way : d.LeadsTo p start) :
    start = g.place := by
  obtain ⟨r, t, hroute, hwalk, rfl⟩ := leadsTo_iff.1 way
  obtain rfl := Except.ok.inj (g.route_eq.symm.trans hroute)
  obtain ⟨r, t', hroute', hwalk', hnode, -⟩ := exists_of_find (find_of_read h)
  obtain rfl := Except.ok.inj (g.route_eq.symm.trans hroute')
  obtain rfl := Except.ok.inj (hwalk.symm.trans hwalk')
  obtain ⟨before, hbefore, hstep⟩ := (Trail.walk_concat g.steps g.name).1 hwalk
  obtain rfl := Except.ok.inj (g.walk_eq.symm.trans hbefore)
  obtain ⟨-, -, ⟨stay, -⟩ | ⟨up, -⟩ | ⟨-, -, n, -, rfl⟩⟩ := Trail.step_cases hstep
  · exact absurd stay g.isName.1
  · exact absurd up g.isName.2
  · exact Trail.place_cons g.name n g.way

namespace Target

variable (g : d.Target p) (bytes : List UInt8)

/-- A file that is written changes its place alone. -/
theorem sameBut : Node.SameBut g.place d.tree (g.written bytes).tree :=
  Node.sameBut_put (Node.isLeaf_file bytes) g.at?_place_ne_directory

theorem at?_written : (g.written bytes).tree.at? g.place = some (.file bytes) :=
  Node.at?_put_self (.file bytes) g.name g.at?_directory

theorem proper_written (proper : d.tree.Proper) : (g.written bytes).tree.Proper := by
  apply proper.put
  trivial

theorem spelled_written (spelled : d.tree.Spelled) : (g.written bytes).tree.Spelled := by
  apply spelled.put
  · trivial
  · intro name called
    rcases List.mem_append.1 called with before | last
    · exact (spelled.at? g.at?_directory).1 name before
    · rw [List.mem_singleton.1 last]
      exact g.isName_and_getLast?.1

end Target

end Disk

end Corpus
