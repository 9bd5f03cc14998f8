import Corpus.Proofs.Disk.Written

/-!
# The directories around a file

Before a file is written, the directories around it are made where they are missing. Which ones they
are is read off the spelling of the path; which ones the file is in is found by walking. The two
agree where it matters: **if a file can be read, the innermost directory around it is there**
(`Disk.leadsToDirectory_around`), so none is made, and the file can be written
(`Disk.writeText_of_read`).

The spellings differ in what is silent: dots and empty stretches before the name are left out of the
spelling of the directory, and a walk over them stays where it is (`Trail.walk_dots`).
-/

set_option autoImplicit false

namespace Corpus

open Corpus.Text

namespace Path

/-! ## Spellings -/

theorem not_mem_of_mem_stretches {spelling stretch : List Char} (h : stretch ∈ stretches spelling) :
    '/' ∉ stretch := by
  unfold stretches at h
  induction spelling generalizing stretch with
  | nil =>
    rw [List.splitOn_nil, List.mem_singleton] at h
    rw [h]
    exact List.not_mem_nil
  | cons x spelling ih =>
    rw [List.splitOn_cons_eq_if_modifyHead] at h
    obtain ⟨first, more, hsplit⟩ := List.exists_cons_of_ne_nil (List.splitOn_ne_nil '/' spelling)
    rw [hsplit] at h ih
    split at h
    · obtain rfl | h := List.mem_cons.1 h
      · exact List.not_mem_nil
      · exact ih h
    · rename_i hx
      obtain rfl | h := List.mem_cons.1 h
      · rw [List.mem_cons, not_or]
        exact ⟨fun same => hx (beq_iff_eq.2 same.symm), ih List.mem_cons_self⟩
      · exact ih (List.mem_cons_of_mem first h)

theorem intercalate_append {α : Type} (separator : List α) {before behind : List (List α)}
    (h : before ≠ []) (h' : behind ≠ []) :
    separator.intercalate (before ++ behind) =
      separator.intercalate before ++ (separator ++ separator.intercalate behind) := by
  induction before with
  | nil => exact absurd rfl h
  | cons first before ih =>
    cases before with
    | nil =>
      rw [List.singleton_append, List.intercalate_cons_of_ne_nil h', List.intercalate_singleton,
        List.append_assoc]
    | cons next before =>
      rw [List.cons_append, List.cons_append, List.intercalate_cons_cons, ← List.cons_append,
        ih (List.cons_ne_nil next before), List.intercalate_cons_cons, List.append_assoc,
        List.append_assoc, List.append_assoc]

theorem intercalate_stretches (spelling : List Char) :
    ['/'].intercalate (stretches spelling) = spelling :=
  List.intercalate_splitOn '/'

theorem stretches_intercalate {parts : List (List Char)} (h : ∀ part ∈ parts, '/' ∉ part)
    (hne : parts ≠ []) : stretches (['/'].intercalate parts) = parts :=
  List.splitOn_intercalate '/' h hne

/-- The stretches that a path is followed by. -/
def spoken (parts : List (List Char)) : List (List Char) :=
  parts.filter (!·.isEmpty)

theorem eq_dot_of_isSilent {stretch : List Char} (h : isSilent stretch = true)
    (hne : stretch ≠ []) : stretch = ['.'] := by
  unfold isSilent Component.ofStretch? at h
  split at h
  · exact absurd rfl hne
  · rfl
  all_goals cases h

theorem toList_ofBackwards (first : List Char) (before : List (List Char)) :
    (ofBackwards first before).spelling.toList =
      if first :: (before.dropWhile isSilent).reverse = [[]] then ['/']
      else ['/'].intercalate (first :: (before.dropWhile isSilent).reverse) := by
  unfold ofBackwards
  cases (before.dropWhile isSilent).reverse with
  | nil =>
    by_cases h : first = []
    · rw [if_pos (congrArg (fun first => [first]) h)]
      simp only [h, if_true]
      rfl
    · have other : ¬ [first] = [[]] := fun same => h (List.singleton_inj.1 same)
      rw [if_neg other, List.intercalate_singleton]
      simp only [h, if_false, String.toList_ofList]
  | cons part said =>
    have other : ¬ first :: part :: said = [[]] := by simp
    rw [if_neg other]
    simp only [String.toList_ofList]

/-- What `ofBackwards` leaves out of a spelling is silent, and the rest of it is a beginning. -/
theorem exists_ofBackwards {first : List Char} {more : List (List Char)}
    (h : ∀ part ∈ first :: more, '/' ∉ part) :
    ∃ said silent, more = said ++ silent ∧ (∀ part ∈ silent, isSilent part = true) ∧
      spoken (stretches (ofBackwards first more.reverse).spelling.toList) = spoken (first :: said) ∧
      (ofBackwards first more.reverse).spelling.toList ≠ [] ∧
      ∀ behind, behind ≠ [] → (ofBackwards first more.reverse).spelling.toList <+:
        ['/'].intercalate (first :: (said ++ behind)) := by
  rw [toList_ofBackwards]
  have split : more = (more.reverse.dropWhile isSilent).reverse ++
      (more.reverse.takeWhile isSilent).reverse := by
    rw [← List.reverse_append, List.takeWhile_append_dropWhile, List.reverse_reverse]
  have quiet : ∀ part ∈ (more.reverse.takeWhile isSilent).reverse, isSilent part = true :=
    fun part hpart => List.all_eq_true.1 List.all_takeWhile part (List.mem_reverse.1 hpart)
  generalize (more.reverse.dropWhile isSilent).reverse = said at split ⊢
  generalize (more.reverse.takeWhile isSilent).reverse = silent at split quiet
  refine ⟨said, silent, split, quiet, ?_⟩
  by_cases top : first :: said = [[]]
  · -- The directory is the top: nothing is said before the name.
    obtain ⟨rfl, rfl⟩ := List.cons_eq_cons.1 top
    rw [if_pos rfl]
    refine ⟨by decide, List.cons_ne_nil _ _, fun behind hbehind => ?_⟩
    rw [List.nil_append, List.intercalate_cons_of_ne_nil hbehind]
    exact List.prefix_append ['/'] _
  · have bare : ∀ part ∈ first :: said, '/' ∉ part := by
      intro part hpart
      refine h part ?_
      rw [split, ← List.cons_append]
      exact List.mem_append_left silent hpart
    have stretches_eq := stretches_intercalate bare (List.cons_ne_nil first said)
    rw [if_neg top, stretches_eq]
    refine ⟨rfl, ?_, fun behind hbehind => ?_⟩
    · intro empty
      rw [empty] at stretches_eq
      exact top stretches_eq.symm
    · rw [← List.cons_append, intercalate_append ['/'] (List.cons_ne_nil first said) hbehind]
      exact List.prefix_append _ _

/-- The innermost directory around a name. Its spelling is where that of the path begins, and the
steps to it are the same but for dots. -/
theorem exists_around {p : Path} {before : List (List Char)} {last : List Char}
    (h : stretches p.spelling.toList = before ++ [last]) (hlast : isSilent last = false) :
    p.around = [] ∨ ∃ q more dots, p.around = q :: more ∧ q.spelling.toList ≠ [] ∧
      q.spelling.toList <+: p.spelling.toList ∧ (∀ part ∈ dots, part = ['.']) ∧
      spoken before = spoken (stretches q.spelling.toList) ++ dots := by
  unfold around
  rw [h]
  cases before with
  | nil => exact .inl rfl
  | cons first middle =>
    have bare : ∀ part ∈ first :: middle, '/' ∉ part := by
      intro part hpart
      have here : part ∈ stretches p.spelling.toList := by
        rw [h]
        exact List.mem_append_left [last] hpart
      exact not_mem_of_mem_stretches here
    obtain ⟨said, silent, rfl, quiet, hspoken, hne, begins⟩ := exists_ofBackwards bare
    have around_eq : aroundBackwards first (said ++ silent ++ [last]).reverse =
        ofBackwards first (said ++ silent).reverse ::
          aroundBackwards first (said ++ silent).reverse := by
      rw [List.reverse_concat, aroundBackwards, if_neg (ne_true_of_eq_false hlast)]
    refine .inr ⟨_, _, spoken silent, around_eq, hne, ?_, ?_, ?_⟩
    · have spelling := intercalate_stretches p.spelling.toList
      rw [h, List.cons_append, List.append_assoc] at spelling
      rw [← spelling]
      exact begins (silent ++ [last]) (List.append_ne_nil_of_right_ne_nil _ (List.cons_ne_nil _ _))
    · intro part hpart
      obtain ⟨hsilent, hpart⟩ := List.mem_filter.1 hpart
      exact eq_dot_of_isSilent (quiet part hsilent) (by simpa using hpart)
    · rw [hspoken, ← List.cons_append]
      exact List.filter_append _ _

/-- The last stretch of a path that does not end in a separator says something. -/
theorem last_ne_nil {spelling last : List Char} {before : List (List Char)}
    (h : stretches spelling = before ++ [last]) (hne : spelling ≠ [])
    (hlast : spelling.getLast? ≠ some '/') : last ≠ [] := by
  rintro rfl
  have whole := intercalate_stretches spelling
  rw [h] at whole
  cases before with
  | nil => exact hne whole.symm
  | cons first before =>
    rw [intercalate_append ['/'] (List.cons_ne_nil first before) (List.cons_ne_nil [] [])] at whole
    refine hlast ?_
    rw [← whole]
    exact List.getLast?_concat

end Path

/-! ## Walks -/

namespace Trail

/-- A walk does not move over dots. -/
theorem walk_dots {top : Node} {steps dots : List String} {t : Trail}
    (hdots : ∀ stretch ∈ dots, stretch = ".") (h : Disk.walk top (steps ++ dots) = .ok t) :
    Disk.walk top steps = .ok t := by
  induction dots using List.reverseRecOn generalizing t with
  | nil => rwa [List.append_nil] at h
  | append_singleton dots stretch ih =>
    rw [← List.append_assoc] at h
    obtain ⟨u, hwalk, hstep⟩ := (walk_concat _ stretch).1 h
    obtain rfl := hdots stretch (List.mem_append_right dots List.mem_cons_self)
    have before := ih (fun other hother => hdots other (List.mem_append_left _ hother)) hwalk
    obtain ⟨-, -, ⟨-, rfl⟩ | ⟨up, -⟩ | ⟨⟨not_dot, -⟩, -⟩⟩ := step_cases hstep
    · exact before
    · exact absurd up (by decide)
    · exact absurd rfl not_dot

end Trail

namespace Disk

variable {d : Disk} {p q : Path} {old : List UInt8}

/-- Where the steps of a path begin. -/
def base (d : Disk) (p : Path) : List String :=
  if p.spelling.toList.head? = some '/' then [] else d.home

/-- A path that can be asked for at all. -/
structure Askable (p : Path) : Prop where
  nonempty : p.spelling.toList ≠ []
  noNul : '\x00' ∉ p.spelling.toList
  short : p.spelling.utf8ByteSize ≤ maxPath

/-- The route of a path, if it can be asked for. -/
def routeTo (d : Disk) (p : Path) : Route where
  steps := d.base p ++ (Path.spoken (Path.stretches p.spelling.toList)).map String.ofList
  wantsDirectory := p.spelling.toList.getLast? = some '/'

theorem route_eq_ok {r : Route} : d.route p = .ok r ↔ Askable p ∧ r = d.routeTo p := by
  unfold route routeTo base isTooLong
  by_cases nul : '\x00' ∈ p.spelling.toList
  · rw [if_pos (List.contains_iff_mem.2 nul)]
    exact ⟨nofun, fun h => absurd nul h.1.noNul⟩
  rw [if_neg (mt List.contains_iff_mem.1 nul)]
  by_cases long : maxPath < p.spelling.utf8ByteSize
  · rw [if_pos (decide_eq_true long)]
    exact ⟨nofun, fun h => absurd h.1.short (Nat.not_le.2 long)⟩
  rw [if_neg (ne_true_of_eq_false (decide_eq_false long))]
  by_cases empty : p.spelling.toList = []
  · rw [if_pos (List.isEmpty_iff.2 empty)]
    exact ⟨nofun, fun h => absurd empty h.1.nonempty⟩
  rw [if_neg (mt List.isEmpty_iff.1 empty), Except.ok.injEq]
  constructor
  · rintro rfl
    refine ⟨⟨empty, nul, Nat.not_lt.1 long⟩, ?_⟩
    split <;> rfl
  · rintro ⟨-, rfl⟩
    split <;> rfl

/-- The beginning of a path can be asked for, and is followed from the same directory. -/
theorem Askable.beginning (h : Askable p) (hne : q.spelling.toList ≠ [])
    (begins : q.spelling.toList <+: p.spelling.toList) : Askable q ∧ d.base q = d.base p := by
  obtain ⟨rest, hrest⟩ := begins
  have spelling : p.spelling = q.spelling ++ String.ofList rest := by
    rw [← String.toList_inj, String.toList_append, String.toList_ofList, hrest]
  refine ⟨⟨hne, ?_, ?_⟩, ?_⟩
  · intro nul
    refine h.noNul ?_
    rw [← hrest]
    exact List.mem_append_left rest nul
  · have short := h.short
    rw [spelling, String.utf8ByteSize_append] at short
    exact Nat.le_of_add_right_le short
  · obtain ⟨x, more, hq⟩ := List.exists_cons_of_ne_nil hne
    unfold base
    rw [← hrest, hq]
    rfl

/-- How something is found: by the steps of the route. -/
theorem exists_of_find {n : Node} (h : d.find p = .ok n) :
    ∃ r t, d.route p = .ok r ∧ walk d.tree r.steps = .ok t ∧ t.node d.tree = n ∧
      (r.wantsDirectory = true → n.isDirectory = true) := by
  unfold find at h
  obtain ⟨r, hroute, hthen⟩ := exists_of_bind_eq_ok h
  obtain ⟨t, hwalk, hfound⟩ := exists_of_bind_eq_ok hthen
  dsimp only at hfound
  split at hfound
  · cases hfound
  · rename_i sort
    obtain rfl := Except.ok.inj hfound
    exact ⟨r, t, hroute, hwalk, rfl, by simpa using sort⟩

theorem find_of_read (h : d.read p = .ok old) : d.find p = .ok (.file old) := by
  unfold read at h
  obtain ⟨_ | _, hfind, hbytes⟩ := exists_of_bind_eq_ok h
  · rw [hfind, Except.ok.inj hbytes]
  · cases hbytes

/-- The route of a path that does not ask for a directory ends in a name or in dots. -/
theorem exists_last {r : Route} (h : d.route p = .ok r) (hwants : r.wantsDirectory = false) :
    ∃ before last, Path.stretches p.spelling.toList = before ++ [last] ∧ last ≠ [] ∧
      r = ⟨d.base p ++ (Path.spoken before).map String.ofList ++ [String.ofList last], false⟩ := by
  obtain ⟨askable, rfl⟩ := route_eq_ok.1 h
  have some_stretch : Path.stretches p.spelling.toList ≠ [] := List.splitOn_ne_nil _ _
  obtain ⟨before, last, split⟩ := (List.eq_nil_or_concat _).resolve_left some_stretch
  rw [List.concat_eq_append] at split
  have last_ne := Path.last_ne_nil split askable.nonempty (of_decide_eq_false hwants)
  have said : Path.spoken (before ++ [last]) = Path.spoken before ++ [last] := by
    simp [Path.spoken, last_ne]
  refine ⟨before, last, split, last_ne, ?_⟩
  have steps : (d.routeTo p).steps =
      d.base p ++ (Path.spoken before).map String.ofList ++ [String.ofList last] := by
    rw [routeTo, split, said, List.map_append, List.append_assoc]
    rfl
  rw [← steps, ← hwants]

/-- Where a file can be read, a file can be written: its place is below a directory, and the path
spells its name. -/
theorem exists_target_of_read (h : d.read p = .ok old) :
    ∃ (g : d.Target p) (before : List (List Char)) (last : List Char),
      Path.stretches p.spelling.toList = before ++ [last] ∧ Path.isSilent last = false ∧
      g.steps = d.base p ++ (Path.spoken before).map String.ofList := by
  obtain ⟨r, t, hroute, hwalk, hnode, sort⟩ := exists_of_find (find_of_read h)
  have no_directory : r.wantsDirectory = false := by
    refine eq_false_of_ne_true fun wants => ?_
    cases sort wants
  obtain ⟨before, last, split, last_ne, rfl⟩ := exists_last hroute no_directory
  obtain ⟨way, hway, hstep⟩ := (Trail.walk_concat _ _).1 hwalk
  obtain ⟨entries, here, kind⟩ := Trail.step_cases hstep
  obtain ⟨-, rfl⟩ | ⟨-, rfl⟩ | ⟨isName, short, n, hn, rfl⟩ := kind
  · rw [here] at hnode
    cases hnode
  · obtain ⟨above, habove⟩ := Trail.exists_directory_tail (Trail.isIn_walk hway) here
    rw [habove] at hnode
    cases hnode
  · obtain rfl : n = .file old := hnode
    have free : ∀ below, entries.lookup (String.ofList last) ≠ some (.directory below) := by
      intro below
      rw [hn]
      simp
    have spoken_last : Path.isSilent last = false := by
      refine eq_false_of_ne_true fun silent => isName.1 ?_
      rw [Path.eq_dot_of_isSilent silent last_ne]
    exact ⟨⟨_, _, way, entries, hroute, hway, here, isName, short, free⟩, before, last, split,
      spoken_last, rfl⟩

/-- The innermost directory around a file is there. -/
theorem leadsToDirectory_around (h : d.read p = .ok old) {more : List Path}
    (around : p.around = q :: more) : d.leadsToDirectory q = true := by
  obtain ⟨g, before, last, split, spoken_last, hsteps⟩ := exists_target_of_read h
  obtain none | ⟨q', more', dots, around', hne, begins, hdots, said⟩ :=
    Path.exists_around split spoken_last
  · rw [none] at around
    cases around
  · obtain ⟨rfl, rfl⟩ := List.cons_eq_cons.1 (around.symm.trans around')
    obtain ⟨askable, base_eq⟩ := (route_eq_ok.1 g.route_eq).1.beginning (d := d) hne begins
    have still : ∀ stretch ∈ dots.map String.ofList, stretch = "." := by
      intro stretch hstretch
      obtain ⟨part, hpart, rfl⟩ := List.mem_map.1 hstretch
      rw [hdots part hpart]
    have there := g.walk_eq
    rw [hsteps, said, List.map_append, ← List.append_assoc, ← base_eq] at there
    have route : d.route q = .ok (d.routeTo q) := route_eq_ok.2 ⟨askable, rfl⟩
    have walk_route : walk d.tree (d.routeTo q).steps = .ok g.way := Trail.walk_dots still there
    simp [leadsToDirectory, find, route, walk_route, g.node_eq, bind, Except.bind,
      Node.isDirectory]

/-- A directory is made only where nothing is. -/
theorem makeDirectory_ne_ok {n : Node} (h : d.find p = .ok n) (made : Disk) :
    d.makeDirectory p ≠ .ok made := by
  intro hmade
  obtain ⟨r, t, hroute, hwalk, -⟩ := exists_of_find h
  unfold makeDirectory at hmade
  obtain ⟨r', hroute', hthen⟩ := exists_of_bind_eq_ok hmade
  obtain rfl := Except.ok.inj (hroute.symm.trans hroute')
  obtain ⟨_ | ⟨place, entries, name⟩, hentry, hput⟩ := exists_of_bind_eq_ok hthen
  · cases hput
  · obtain ⟨steps, way, hsteps, hway, hnode, ⟨not_dot, not_up⟩, -⟩ := newEntry_cases hentry
    rw [hsteps] at hwalk
    obtain ⟨way', hway', hstep⟩ := (Trail.walk_concat steps name).1 hwalk
    obtain rfl := Except.ok.inj (hway.symm.trans hway')
    obtain ⟨here, hhere, ⟨dot, -⟩ | ⟨up, -⟩ | ⟨-, -, n, hn, -⟩⟩ := Trail.step_cases hstep
    · exact not_dot dot
    · exact not_up up
    · obtain rfl := Node.directory.inj (hnode.symm.trans hhere)
      dsimp only at hput
      split at hput
      · cases hput
      · rw [hn] at hput
        cases hput

/-- What is there is not made. -/
theorem ensureDirectory_of_leadsToDirectory (h : d.leadsToDirectory p = true) :
    d.ensureDirectory p = .ok d := by
  unfold ensureDirectory
  cases hmade : d.makeDirectory p with
  | error e => simp only [h, if_true]
  | ok made =>
    unfold leadsToDirectory at h
    split at h
    · rename_i hfind
      exact absurd hmade (makeDirectory_ne_ok hfind made)
    · cases h

/-- Where the innermost directory is there, none is made. -/
theorem makeDirectories_of_leadsToDirectory {paths : List Path}
    (h : ∀ q, paths.head? = some q → d.leadsToDirectory q = true) :
    d.makeDirectories paths = (.ok (), d) := by
  cases paths with
  | nil => rfl
  | cons q more => simp only [makeDirectories, ensureDirectory_of_leadsToDirectory (h q rfl)]

theorem makeDirectories_around (h : d.read p = .ok old) :
    d.makeDirectories p.around = (.ok (), d) := by
  apply makeDirectories_of_leadsToDirectory
  intro q innermost
  obtain ⟨more, around⟩ := List.head?_eq_some_iff.1 innermost
  exact leadsToDirectory_around h around

/-- Where nothing need be made around it, a text is written to its place and no more is done. -/
theorem Target.writeText_eq (g : d.Target p) (h : d.makeDirectories p.around = (.ok (), d))
    (text : List Char) : d.writeText p text = (.ok (), g.written (Utf8.encode text)) := by
  simp only [writeText, h, g.write_eq]

/-- A text can be written over whatever a file holds. -/
theorem writeText_of_read (h : d.read p = .ok old) (text : List Char) :
    ∃ d', d.writeText p text = (.ok (), d') := by
  obtain ⟨g, -⟩ := exists_target_of_read h
  exact ⟨_, g.writeText_eq (makeDirectories_around h) text⟩

end Disk

end Corpus
