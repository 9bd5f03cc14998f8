import Corpus.Proofs.Disk.Around
import Corpus.Source.Kind

/-!
# What the components of a path say

A path is spelled in many ways and means its components. Three things depend on them alone.

* The path of an entry has the components of the directory and then the name, however the directory
  is spelled (`Path.components_entry`). This needs a name that can be one (`Path.IsName`): an entry
  called `..` would be lost among the directories above it.
* The kind of a file is in its last component (`FileKind.ofPath?_eq_some`).
* Paths are ordered by them, one after the other, and **no two paths of different components come at
  the same place** (`Path.compare_eq_eq`), so that sorting has one result.
-/

set_option autoImplicit false

namespace Corpus

namespace Path

/-! ## Entries -/

/-- What an entry of a directory can be called. -/
structure IsName (name : String) : Prop where
  noSeparator : '/' ∉ name.toList
  nonempty : name ≠ ""
  notHere : name ≠ "."
  notUp : name ≠ ".."

instance (name : String) : Decidable (IsName name) :=
  decidable_of_iff ('/' ∉ name.toList ∧ name ≠ "" ∧ name ≠ "." ∧ name ≠ "..")
    ⟨fun ⟨a, b, c, d⟩ => ⟨a, b, c, d⟩, fun ⟨a, b, c, d⟩ => ⟨a, b, c, d⟩⟩

variable {p q : Path} {name : String}

theorem IsName.toList_ne_nil (h : IsName name) : name.toList ≠ [] :=
  mt (@String.toList_inj name "").1 h.nonempty

theorem IsName.ofStretch?_eq (h : IsName name) :
    Component.ofStretch? name.toList = some (.name name) := by
  have other : ∀ s : String, name ≠ s → name.toList ≠ s.toList := fun s => mt String.toList_inj.1
  unfold Component.ofStretch?
  split
  · exact absurd ‹_› (other "" h.nonempty)
  · exact absurd ‹_› (other "." h.notHere)
  · exact absurd ‹_› (other ".." h.notUp)
  · rw [String.ofList_toList]

/-- The first stretch is read by rules of its own, and the others one by one. -/
theorem components_eq {first : List Char} {more : List (List Char)}
    (h : stretches p.spelling.toList = first :: more) :
    p.components =
      (if first = [] then if more = [] then [] else [.root]
        else if first = ['.'] then [.here] else (Component.ofStretch? first).toList) ++
      more.filterMap Component.ofStretch? := by
  unfold components
  rw [h]
  dsimp only
  split_ifs <;> rfl

theorem stretches_append_separator (spelling : List Char) {last : List Char} (h : '/' ∉ last) :
    stretches (spelling ++ '/' :: last) = stretches spelling ++ [last] := by
  unfold stretches
  rw [List.splitOn_append_cons_self, List.splitOn_eq_singleton h]

/-- A name behind other stretches is one more component. A single empty stretch is not enough
before it: that is the empty path, and it turns into the root where something follows. -/
theorem components_of_stretches (h : IsName name) {first : List Char} {more said : List (List Char)}
    (hp : stretches p.spelling.toList = first :: more) (hne : first :: more ≠ [[]])
    (hsaid : said.filterMap Component.ofStretch? = more.filterMap Component.ofStretch?)
    (hq : stretches q.spelling.toList = first :: (said ++ [name.toList])) :
    q.components = p.components ++ [.name name] := by
  have last : [name.toList].filterMap Component.ofStretch? = [.name name] := by
    rw [List.filterMap_cons_some h.ofStretch?_eq, List.filterMap_nil]
  rw [components_eq hp, components_eq hq, List.filterMap_append, hsaid, last, List.append_assoc]
  by_cases hfirst : first = []
  · have hmore : more ≠ [] := fun none => hne (by rw [hfirst, none])
    simp [hfirst, hmore]
  · simp [hfirst]

/-- A name by itself is a path of one component. -/
theorem components_name (h : IsName name) : (⟨name⟩ : Path).components = [.name name] := by
  have bare : ∀ part ∈ [name.toList], '/' ∉ part :=
    fun part hpart => List.mem_singleton.1 hpart ▸ h.noSeparator
  have alone := stretches_intercalate bare (List.cons_ne_nil _ _)
  rw [List.intercalate_singleton] at alone
  have not_here : name.toList ≠ ['.'] := mt (@String.toList_inj name ".").1 h.notHere
  rw [components_eq (p := ⟨name⟩) alone, if_neg h.toList_ne_nil, if_neg not_here,
    h.ofStretch?_eq]
  rfl

/-- The path of an entry is cut where that of the directory is, but for an empty stretch at the end
of it, and then its name stands by itself. -/
theorem exists_stretches_entry (h : IsName name) (hne : p.spelling.toList ≠ []) :
    ∃ said, stretches (p.entry name).spelling.toList = said ++ [name.toList] ∧
      (stretches p.spelling.toList = said ∨ stretches p.spelling.toList = said ++ [[]]) := by
  unfold entry
  split
  case h_1 hlast => exact absurd (List.getLast?_eq_none_iff.1 hlast) hne
  case h_2 hlast =>
    obtain ⟨before, hbefore⟩ := List.getLast?_eq_some_iff.1 hlast
    refine ⟨stretches before, ?_, .inr ?_⟩
    · have spelled : (p.spelling ++ name).toList = before ++ '/' :: name.toList := by
        rw [String.toList_append, hbefore, List.append_assoc, List.singleton_append]
      rw [spelled, stretches_append_separator before h.noSeparator]
    · rw [hbefore, stretches_append_separator before List.not_mem_nil]
  case h_3 =>
    refine ⟨stretches p.spelling.toList, ?_, .inl rfl⟩
    have spelled : (p.spelling ++ "/" ++ name).toList =
        p.spelling.toList ++ '/' :: name.toList := by
      rw [String.toList_append, String.toList_append, List.append_assoc]
      rfl
    rw [spelled, stretches_append_separator _ h.noSeparator]

/-- The path of an entry goes on by its name, whether the path of the directory is empty, ends in a
separator or has to be given one. -/
theorem components_entry (h : IsName name) (p : Path) :
    (p.entry name).components = p.components ++ [.name name] := by
  by_cases empty : p.spelling.toList = []
  · have none : p.components = [] := by
      unfold components
      rw [empty]
      rfl
    have alone : p.entry name = ⟨name⟩ := by
      unfold entry
      rw [empty]
      rfl
    rw [alone, none, components_name h, List.nil_append]
  obtain ⟨said, whole, directory⟩ := exists_stretches_entry h empty
  have spoken : stretches p.spelling.toList ≠ [[]] := by
    intro nothing
    have joined := intercalate_stretches p.spelling.toList
    rw [nothing] at joined
    exact empty joined.symm
  cases said with
  | nil =>
    rcases directory with directory | directory
    · exact absurd directory (List.splitOn_ne_nil '/' _)
    · exact absurd directory spoken
  | cons first more =>
    rcases directory with directory | directory
    · exact components_of_stretches h directory (directory ▸ spoken) rfl whole
    · -- The last stretch of the directory's path is empty, and the name takes its place.
      rw [List.cons_append] at directory
      refine components_of_stretches h directory (directory ▸ spoken) ?_ whole
      rw [List.filterMap_append]
      exact (List.append_nil _).symm

/-- A name at the end of a path is its last component. -/
theorem getLast?_components {before : List (List Char)} {last : List Char}
    (split : stretches p.spelling.toList = before ++ [last]) (h : IsName (String.ofList last)) :
    p.components.getLast? = some (.name (String.ofList last)) := by
  have said : Component.ofStretch? last = some (.name (String.ofList last)) := by
    have := h.ofStretch?_eq
    rwa [String.toList_ofList] at this
  cases before with
  | nil =>
    have not_nothing : last ≠ [] := by
      rintro rfl
      cases said
    have not_here : last ≠ ['.'] := by
      rintro rfl
      cases said
    rw [components_eq split, if_neg not_nothing, if_neg not_here, said]
    rfl
  | cons first middle =>
    rw [components_eq (List.cons_append ▸ split), List.filterMap_append,
      List.filterMap_cons_some said, List.filterMap_nil, ← List.append_assoc]
    exact List.getLast?_concat

/-! ## Extensions -/

/-- The name at the end is the last component. -/
theorem fileName?_eq_some :
    p.fileName? = some name ↔ p.components.getLast? = some (.name name) := by
  unfold fileName?
  cases p.components.getLast? with
  | none => simp
  | some c => cases c <;> simp

/-- An extension stands behind the last dot of a name, and something stands before that dot. -/
theorem extension?_eq_some {e : String} :
    p.extension? = some e ↔
      '.' ∉ e.toList ∧ ∃ stem, stem ≠ "" ∧ p.fileName? = some (stem ++ "." ++ e) := by
  constructor
  · intro h
    obtain ⟨name, hname, h⟩ := Option.bind_eq_some_iff.1 h
    dsimp only at h
    split at h
    case h_1 dot before first hdrop =>
      obtain rfl := Option.some.inj h
      have behind := List.takeWhile_append_dropWhile (p := (· != '.')) (l := name.toList.reverse)
      have is_dot := List.head?_dropWhile_not (· != '.') name.toList.reverse
      rw [hdrop] at behind is_dot
      obtain rfl : dot = '.' := by simpa using is_dot
      have no_dot : '.' ∉ name.toList.reverse.takeWhile (· != '.') :=
        fun h => absurd (List.all_eq_true.1 List.all_takeWhile '.' h) (by decide)
      generalize name.toList.reverse.takeWhile (· != '.') = after at behind no_dot
      have spelled : name.toList = (before :: first).reverse ++ '.' :: after.reverse := by
        rw [← List.reverse_reverse name.toList, ← behind]
        simp
      refine ⟨by simpa using no_dot, String.ofList (before :: first).reverse, by simp, ?_⟩
      refine hname.trans (congrArg some (String.toList_inj.1 ?_))
      simp [spelled]
    case h_2 => cases h
  · rintro ⟨no_dot, stem, hstem, hname⟩
    obtain ⟨last, more, hlast⟩ : ∃ last more, stem.toList.reverse = last :: more :=
      List.exists_cons_of_ne_nil (by simpa using hstem)
    have reversed : (stem ++ "." ++ e).toList.reverse =
        e.toList.reverse ++ '.' :: last :: more := by
      rw [← hlast]
      simp
    have free : ∀ x ∈ e.toList.reverse, (x != '.') = true := by
      intro x hx
      refine bne_iff_ne.2 ?_
      rintro rfl
      exact no_dot (List.mem_reverse.1 hx)
    unfold extension?
    rw [hname, Option.bind_eq_bind, Option.bind_some]
    dsimp only
    rw [reversed, List.takeWhile_append_of_pos free, List.dropWhile_append_of_pos free,
      List.takeWhile_cons_of_neg (by simp), List.dropWhile_cons_of_neg (by simp)]
    simp

/-! ## Order -/

namespace Component

theorem eq_of_rank_eq_of_text_eq {a b : Component} (hrank : a.rank = b.rank)
    (htext : a.text = b.text) : a = b := by
  cases a <;> cases b <;> first | rfl | exact congrArg name htext | cases hrank

instance : Std.TransOrd Component :=
  inferInstanceAs (Std.TransCmp (compareLex (compareOn rank) (compareOn text)))

instance : Std.LawfulEqOrd Component where
  eq_of_compare := by
    intro a b h
    obtain ⟨hrank, htext⟩ := Ordering.then_eq_eq.1 h
    exact eq_of_rank_eq_of_text_eq (Std.LawfulEqCmp.eq_of_compare hrank)
      (Std.LawfulEqCmp.eq_of_compare htext)

end Component

instance : Std.TransOrd Path :=
  inferInstanceAs (Std.TransCmp (compareOn components))

/-- Two paths come at the same place only if they have the same components. -/
theorem compare_eq_eq : compare p q = .eq ↔ p.components = q.components :=
  @Std.LawfulEqCmp.compare_eq_iff_eq (List Component) compare _ _ _

theorem comesBefore_trans (p q r : Path) (h : p.comesBefore q) (h' : q.comesBefore r) :
    p.comesBefore r :=
  Std.TransCmp.isLE_trans h h'

theorem comesBefore_total (p q : Path) : p.comesBefore q || q.comesBefore p := by
  unfold comesBefore
  rw [@Std.OrientedCmp.eq_swap Path compare _ q p]
  cases compare p q <;> rfl

theorem compare_eq_lt_of_comesBefore (h : p.comesBefore q)
    (different : p.components ≠ q.components) : compare p q = .lt := by
  have apart := mt compare_eq_eq.1 different
  unfold comesBefore at h
  cases order : compare p q with
  | lt => rfl
  | eq => exact absurd order apart
  | gt =>
    rw [order] at h
    cases h

end Path

namespace FileKind

def extension : FileKind → String
  | .c => "c"
  | .java => "java"
  | .scala => "scala"
  | .python => "py"
  | .text => "txt"

theorem ofExtension?_eq_some {e : String} {kind : FileKind} :
    ofExtension? e = some kind ↔ e = kind.extension := by
  constructor
  · unfold ofExtension?
    split <;> rintro ⟨⟩ <;> rfl
  · rintro rfl
    cases kind <;> rfl

/-- **The kind of a file is in its last component.** Something has to be before the dot. -/
theorem ofPath?_eq_some {p : Path} {kind : FileKind} :
    ofPath? p = some kind ↔
      ∃ stem, stem ≠ "" ∧ p.components.getLast? = some (.name (stem ++ "." ++ kind.extension)) := by
  unfold ofPath?
  rw [Option.bind_eq_some_iff]
  constructor
  · rintro ⟨e, he, hkind⟩
    obtain rfl := ofExtension?_eq_some.1 hkind
    obtain ⟨-, stem, hstem, hname⟩ := Path.extension?_eq_some.1 he
    exact ⟨stem, hstem, Path.fileName?_eq_some.1 hname⟩
  · rintro ⟨stem, hstem, hname⟩
    have no_dot : '.' ∉ kind.extension.toList := by cases kind <;> decide
    exact ⟨_, Path.extension?_eq_some.2 ⟨no_dot, stem, hstem, Path.fileName?_eq_some.2 hname⟩,
      ofExtension?_eq_some.2 rfl⟩

/-- Paths with the same last component are of the same kind. -/
theorem ofPath?_eq {p q : Path} (h : p.components.getLast? = q.components.getLast?) :
    ofPath? p = ofPath? q := by
  unfold ofPath? Path.extension? Path.fileName?
  rw [h]

end FileKind

end Corpus
