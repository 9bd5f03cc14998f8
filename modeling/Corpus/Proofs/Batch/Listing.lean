import Corpus.Proofs.Batch.Discovery
import Corpus.Proofs.Disk.Elsewhere

/-!
# Files read by the paths they are listed with

A source file is listed with a path that goes on from the root's by the names on the way down
(`Path.below`), and it is read by following that path from the start. So reading goes the way to the
root once more and then down by the same names (`Disk.walk_below`). With trees that have a file
at the same place below, this comes to the same in both of them (`Trail.bothReach_down`), be it the
file or, where a name is longer than a name can be asked for, an error.

The last name on the way is also the last component of the path, whichever way the path is spelled
(`Disk.exists_name_of_listed`), and the kind of a file is in that name.
-/

set_option autoImplicit false

namespace Corpus

open Corpus.Text

/-! ## Paths -/

namespace Path

variable {p : Path} {name : String} {place : Place}

theorem exists_toList_entry (p : Path) (name : String) :
    ∃ between, (p.entry name).spelling.toList = p.spelling.toList ++ between ++ name.toList := by
  unfold entry
  split
  case h_1 hlast => exact ⟨[], by rw [List.getLast?_eq_none_iff.1 hlast]; rfl⟩
  case h_2 => exact ⟨[], by rw [String.toList_append, List.append_nil]⟩
  case h_3 => exact ⟨['/'], by rw [String.toList_append, String.toList_append]; rfl⟩

theorem spoken_entry (h : IsName name) (hne : p.spelling.toList ≠ []) :
    spoken (stretches (p.entry name).spelling.toList) =
      spoken (stretches p.spelling.toList) ++ [name.toList] := by
  obtain ⟨said, whole, directory⟩ := exists_stretches_entry h hne
  have last : spoken [name.toList] = [name.toList] := by simp [spoken, h.nonempty]
  have append : ∀ before behind : List (List Char),
      spoken (before ++ behind) = spoken before ++ spoken behind :=
    fun _ _ => List.filter_append _ _
  rw [whole, append, last]
  rcases directory with directory | directory
  · rw [directory]
  · rw [directory, append]
    have silent : spoken [[]] = [] := rfl
    rw [silent, List.append_nil]

theorem entry_ne_nil (h : IsName name) (p : Path) : (p.entry name).spelling.toList ≠ [] := by
  obtain ⟨between, spelled⟩ := exists_toList_entry p name
  rw [spelled]
  exact List.append_ne_nil_of_right_ne_nil _ h.toList_ne_nil

end Path

namespace Disk

variable {d : Disk} {p : Path} {name : String} {place : Place}

/-- The way to an entry goes on from the way to its directory, by the name. -/
theorem steps_entry (h : Path.IsName name) (hne : p.spelling.toList ≠ []) :
    (d.routeTo (p.entry name)).steps = (d.routeTo p).steps ++ [name] := by
  obtain ⟨between, spelled⟩ := Path.exists_toList_entry p name
  obtain ⟨x, more, hp⟩ := List.exists_cons_of_ne_nil hne
  have base : d.base (p.entry name) = d.base p := by
    unfold base
    rw [spelled, hp]
    rfl
  simp only [routeTo, base, Path.spoken_entry h hne, List.map_append, List.map_singleton,
    String.ofList_toList, List.append_assoc]

/-- The way to what is below a root goes on from the way to the root, by the names of the place. -/
theorem steps_below (names : ∀ name ∈ place, Path.IsName name) (hne : p.spelling.toList ≠ []) :
    (d.routeTo (p.below place)).steps = (d.routeTo p).steps ++ place := by
  induction place generalizing p with
  | nil => exact (List.append_nil _).symm
  | cons name place ih =>
    obtain ⟨first, rest⟩ := List.forall_mem_cons.1 names
    rw [Path.below, ih rest (Path.entry_ne_nil first p), steps_entry first hne, List.append_assoc,
      List.singleton_append]

end Disk

/-! ## Ways down -/

/-- Only in a directory is something else. -/
theorem Node.exists_directory_of_below {n m : Node} {name : String} {place : Place}
    (h : n.at? (name :: place) = some m) : ∃ entries, n = .directory entries := by
  cases n with
  | file bytes => cases h
  | directory entries => exact ⟨entries, rfl⟩

namespace Trail

variable {top top' : Node} {t t' u : Trail} {name : String} {place : Place}

/-- Where something is below a name, there is a step to the name, unless the name is too long. -/
theorem exists_step_down {m : Node} (inside : t.IsIn top) (h : Path.IsName name)
    (there : top.at? (t.place ++ name :: place) = some m) :
    ∃ child, (t.node top).child? name = some child ∧
      Disk.step top t name =
        if Disk.maxName < name.utf8ByteSize then .error .nameTooLong
        else .ok ((name, child) :: t) := by
  rw [Node.at?_append, at?_place inside, Option.bind_some] at there
  cases hnode : t.node top with
  | file bytes =>
    rw [hnode] at there
    cases there
  | directory entries =>
    rw [hnode, Node.at?_cons] at there
    obtain ⟨child, hchild, -⟩ := Option.bind_eq_some_iff.1 there
    refine ⟨child, hchild, ?_⟩
    simp only [Disk.step, hnode, if_neg h.notHere, if_neg h.notUp, hchild]

/-- **Two ways that stand beside each other go down alike**, where both trees have something at the
end of the way. -/
theorem bothReach_down {m m' : Node} (beside : Beside top top' t t')
    (names : ∀ name ∈ place, Path.IsName name) (there : top.at? (t.place ++ place) = some m)
    (there' : top'.at? (t.place ++ place) = some m') :
    (∃ e, place.foldlM (Disk.step top) t = .error e ∧
        place.foldlM (Disk.step top') t' = .error e) ∨
      ∃ u u', place.foldlM (Disk.step top) t = .ok u ∧ place.foldlM (Disk.step top') t' = .ok u' ∧
        u.node top = m ∧ u'.node top' = m' := by
  induction place generalizing t t' with
  | nil =>
    rw [List.append_nil, at?_place beside.inside, Option.some.injEq] at there
    rw [List.append_nil, ← beside.place_eq, at?_place beside.inside', Option.some.injEq] at there'
    exact .inr ⟨t, t', rfl, rfl, there, there'⟩
  | cons name place ih =>
    obtain ⟨first, rest⟩ := List.forall_mem_cons.1 names
    obtain ⟨child, hchild, hstep⟩ := exists_step_down beside.inside first there
    obtain ⟨child', hchild', hstep'⟩ :=
      exists_step_down beside.inside' first (beside.place_eq ▸ there')
    rw [List.foldlM_cons, List.foldlM_cons, hstep, hstep']
    by_cases long : Disk.maxName < name.utf8ByteSize
    · rw [if_pos long, if_pos long]
      exact .inl ⟨_, rfl, rfl⟩
    · rw [if_neg long, if_neg long]
      apply ih (beside.cons hchild hchild') rest
      · rwa [place_cons, List.append_assoc]
      · rwa [place_cons, List.append_assoc]

end Trail

/-! ## Listed files -/

namespace Disk

variable {d d' : Disk} {p root : Path} {n : Node} {place changed start : Place} {bytes : List UInt8}

/-- The last name on the way to a listed file is the last component of its path. -/
theorem exists_name_of_listed (spelled : d.tree.Spelled) (hfind : d.find root = .ok n)
    (way : d.LeadsTo root start) (there : n.at? place = some (.file bytes)) :
    ∃ name, (start ++ place).getLast? = some name ∧
      (root.below place).components.getLast? = some (.name name) := by
  have names := ((spelled_of_find spelled hfind).at? there).1
  rcases List.eq_nil_or_concat place with rfl | ⟨before, name, rfl⟩
  · -- The root is the file, and its path says so.
    obtain rfl := Option.some.inj there
    have held := read_of_find hfind
    obtain ⟨g, -⟩ := exists_target_of_read held
    refine ⟨g.name, ?_, g.isName_and_getLast?.2⟩
    rw [List.append_nil, g.place_eq held way]
    exact List.getLast?_concat
  · rw [List.concat_eq_append] at names ⊢
    refine ⟨name, ?_, ?_⟩
    · rw [← List.append_assoc]
      exact List.getLast?_concat
    · rw [Path.components_below names, List.map_append, ← List.append_assoc]
      exact List.getLast?_concat

/-- A walk to what is below a root is a walk to the root and then down. -/
theorem walk_below (names : ∀ name ∈ place, Path.IsName name) {r q : Route} {t : Trail}
    (hroute : d.route root = .ok r) (hwalk : walk d.tree r.steps = .ok t)
    (hbelow : d.route (root.below place) = .ok q) :
    walk d.tree q.steps = place.foldlM (step d.tree) t := by
  obtain ⟨askable, rfl⟩ := route_eq_ok.1 hroute
  obtain ⟨-, rfl⟩ := route_eq_ok.1 hbelow
  unfold walk at hwalk ⊢
  rw [steps_below names askable.nonempty, List.foldlM_append, hwalk]
  rfl

/-- **A listed file stays listed, and reads the same, when something else is changed.** -/
theorem listed_elsewhere (home : d'.home = d.home)
    (same : Node.SameBut changed d.tree d'.tree)
    (free : ∀ below, d.tree.at? changed ≠ some (.directory below)) (spelled : d.tree.Spelled)
    (hfind : d.find root = .ok n) (way : d.LeadsTo root start)
    (there : n.at? place = some (.file bytes)) (elsewhere : start ++ place ≠ changed) :
    ∃ n', d'.find root = .ok n' ∧ n'.at? place = some (.file bytes) ∧
      d'.readText (root.below place) = d.readText (root.below place) := by
  have names := ((spelled_of_find spelled hfind).at? there).1
  obtain ⟨r, t, hroute, hwalk, rfl, sort⟩ := exists_of_find hfind
  obtain ⟨r', t', hroute', hwalk', rfl⟩ := leadsTo_iff.1 way
  obtain rfl := Except.ok.inj (hroute.symm.trans hroute')
  obtain rfl := Except.ok.inj (hwalk.symm.trans hwalk')
  have here := Trail.at?_place (Trail.isIn_walk hwalk)
  have file : d.tree.at? (t.place ++ place) = some (.file bytes) := by
    rw [Node.at?_append, here, Option.bind_some, there]
  have start_elsewhere : t.place ≠ changed := by
    intro at_start
    cases place with
    | nil => exact elsewhere (by rw [List.append_nil, at_start])
    | cons name place =>
      obtain ⟨entries, hnode⟩ := Node.exists_directory_of_below there
      rw [hnode, at_start] at here
      exact free entries here
  obtain ⟨t', hwalk', beside, hfind'⟩ :=
    find_elsewhere home same free hroute hwalk sort start_elsewhere
  have file' : d'.tree.at? (t.place ++ place) = some (.file bytes) := (same.file elsewhere).2 file
  refine ⟨_, hfind', ?_, ?_⟩
  · rwa [Node.at?_append, ← beside.place_eq, Trail.at?_place beside.inside'] at file'
  · have route_eq := route_of_home home (root.below place)
    cases hbelow : d.route (root.below place) with
    | error e =>
      rw [hbelow] at route_eq
      simp only [readText, read, find, hbelow, route_eq, bind, Except.bind]
    | ok q =>
      rw [hbelow] at route_eq
      have steps := walk_below names hroute hwalk hbelow
      have steps' := walk_below names ((route_of_home home root).trans hroute) hwalk' route_eq
      simp only [readText, read, find, hbelow, route_eq, steps, steps', bind, Except.bind]
      obtain ⟨e, down, down'⟩ | ⟨u, u', down, down', hu, hu'⟩ :=
        Trail.bothReach_down beside names file file'
      · rw [down, down']
      · rw [down, down']
        dsimp only
        rw [hu, hu']

end Disk

end Corpus
