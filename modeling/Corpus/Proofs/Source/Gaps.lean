import Corpus.Proofs.Source.Prose
import Mathlib.Data.List.TakeWhile

/-!
# Prose between gaps

Natural language is segmented gap by gap: **what stands before a gap and what stands behind it are
cut as they would be alone, and the gap is a token of its own** (`proseTokens_gap`). This asks
nothing of the segmenter, which may lose text or invent some, since it is only ever shown one solid
run at a time.

It rests on the runs, which meet exactly where blanks begin or end (`cutRuns_append`), and on their
parser, which never fails.
-/

set_option autoImplicit false

namespace Corpus

open Corpus.Parse Corpus.Parse.Parser Corpus.Text

variable {u v r : List Char}

/-! ## Where runs meet -/

/-- Two texts have the runs of each, unless blanks meet blanks or solids meet solids. -/
theorem cutRuns_append (h : ∀ x ∈ u.getLast?, ∀ y ∈ v.head?, isBlank x ≠ isBlank y) :
    cutRuns (u ++ v) = cutRuns u ++ cutRuns v := by
  fun_induction cutRuns u with
  | case1 => rfl
  | case2 x r ih =>
    have split := List.takeWhile_append_dropWhile (p := (isBlank · == isBlank x)) (l := r)
    have inside : ∀ y ∈ r.takeWhile (isBlank · == isBlank x), (isBlank y == isBlank x) = true :=
      fun y hy => List.mem_takeWhile_imp (p := (isBlank · == isBlank x)) hy
    have ends := headIs_dropWhile (isBlank · == isBlank x) r
    generalize r.takeWhile (isBlank · == isBlank x) = run at split inside ⊢
    generalize r.dropWhile (isBlank · == isBlank x) = left at split ends ih ⊢
    subst split
    have meets : headIs (isBlank · == isBlank x) (left ++ v) = false := by
      cases left with
      | cons y left => exact ends
      | nil =>
        -- The run goes on to the end of the first text, and there it meets the other class.
        rw [List.append_nil] at h
        cases v with
        | nil => rfl
        | cons y v =>
          have last := List.getLast?_eq_some_getLast (List.cons_ne_nil x run)
          have same : isBlank ((x :: run).getLast (List.cons_ne_nil x run)) = isBlank x := by
            rcases List.mem_cons.1 (List.getLast_mem (List.cons_ne_nil x run)) with first | later
            · rw [first]
            · exact beq_iff_eq.1 (inside _ later)
          have other := h _ last y rfl
          rw [same] at other
          exact beq_false_of_ne other.symm
    have behind : ∀ y ∈ left.getLast?, ∀ z ∈ v.head?, isBlank y ≠ isBlank z := by
      intro y hy
      have last : y ∈ (x :: run ++ left).getLast? := List.mem_getLast?_append_of_mem_getLast? hy
      exact h y last
    rw [List.cons_append, List.append_assoc, cutRuns, List.takeWhile_append_of_pos inside,
      takeWhile_of_headIs meets, List.append_nil, List.dropWhile_append_of_pos inside,
      dropWhile_of_headIs meets, ih behind, List.cons_append]

theorem cutRuns_same {x : Char} (h : ∀ y ∈ r, isBlank y = isBlank x) :
    cutRuns (x :: r) = [.begin x r] := by
  have inside : ∀ y ∈ r, (isBlank y == isBlank x) = true := fun y hy => beq_iff_eq.2 (h y hy)
  rw [cutRuns, List.takeWhile_eq_self_iff.2 inside, List.dropWhile_eq_nil_iff.2 inside, cutRuns]

theorem cutRuns_blank {gap : List Char} (hne : gap ≠ []) (hgap : gap.all isBlank = true) :
    cutRuns gap = [.blank gap] := by
  obtain ⟨x, gap, rfl⟩ := List.exists_cons_of_ne_nil hne
  obtain ⟨hx, hgap⟩ := List.forall_mem_cons.1 (List.all_eq_true.1 hgap)
  rw [cutRuns_same fun y hy => (hgap y hy).trans hx.symm, Run.begin, if_pos hx]

theorem cutRuns_solid (hne : r ≠ []) (hr : r.any isBlank = false) :
    cutRuns r = [.solid r] := by
  obtain ⟨x, r, rfl⟩ := List.exists_cons_of_ne_nil hne
  obtain ⟨hx, hr⟩ := List.forall_mem_cons.1 (List.any_eq_false.1 hr)
  have same : ∀ y ∈ r, isBlank y = isBlank x := fun y hy => by
    rw [eq_false_of_ne_true (hr y hy), eq_false_of_ne_true hx]
  rw [cutRuns_same same, Run.begin, if_neg hx]

/-- A gap is one run, and parts the runs before it from those behind it. -/
theorem cutRuns_gap {gap : List Char} (hne : gap ≠ []) (hgap : gap.all isBlank = true)
    (hu : u.getLast?.any isBlank = false) (hv : v.head?.any isBlank = false) :
    cutRuns (u ++ gap ++ v) = cutRuns u ++ .blank gap :: cutRuns v := by
  have blank := List.all_eq_true.1 hgap
  have before : ∀ x ∈ u.getLast?, ∀ y ∈ gap.head?, isBlank x ≠ isBlank y := by
    intro x hx y hy
    rw [(Option.any_eq_false _ _).1 hu x hx, blank y (List.mem_of_mem_head? hy)]
    exact Bool.false_ne_true
  have behind : ∀ x ∈ (u ++ gap).getLast?, ∀ y ∈ v.head?, isBlank x ≠ isBlank y := by
    intro x hx y hy
    rw [List.getLast?_append_of_ne_nil u hne] at hx
    rw [blank x (List.mem_of_mem_getLast? hx), (Option.any_eq_false _ _).1 hv y hy]
    exact Bool.false_ne_true.symm
  rw [cutRuns_append behind, cutRuns_append before, cutRuns_blank hne hgap, List.append_assoc,
    List.singleton_append]

/-! ## Tokens -/

theorem proseTokens_eq (s : Segmenter) (text : String) :
    proseTokens s text = (cutRuns text.toList).flatMap (Run.tokens s) := by
  rw [proseTokens, Run.ofText_eq]

/-- **Prose is segmented between its gaps.** Whatever the segmenter does, a text with a gap in it
has the tokens of what is before the gap, then the gap as a token, then the tokens of what is
behind it; and a text without any has the pieces that the segmenter makes of it as a whole, but for
empty ones. The parser of runs accepts every text and reads it to the end. -/
theorem proseTokens_gap (s : Segmenter) :
    (∀ u gap v : String, gap ≠ "" → allBlank gap = true → u.toList.getLast?.any isBlank = false →
      v.toList.head?.any isBlank = false →
      proseTokens s (u ++ gap ++ v) = proseTokens s u ++ ⟨.text, gap⟩ :: proseTokens s v) ∧
    (∀ text : String, text ≠ "" → text.toList.any isBlank = false →
      proseTokens s text =
        ((s.pieces text).filter (!·.isEmpty)).map fun piece => ⟨.text, piece⟩) ∧
    proseTokens s "" = [] ∧
    ∀ text : String, (many Run.parser).runOn text =
      .ok (Run.ofText text) (.place (byteCount text.toList) []) := by
  have some_char : ∀ text : String, text ≠ "" → text.toList ≠ [] :=
    fun text hne empty => hne (String.toList_eq_nil_iff.1 empty)
  refine ⟨?gap, ?solid, ?empty, ?runs⟩
  case gap =>
    intro u gap v hne hgap hu hv
    have token : Run.tokens s (.blank gap.toList) = [⟨.text, gap⟩] := by
      rw [Run.tokens, Token.ofChars, String.ofList_toList]
    simp only [proseTokens_eq, String.toList_append, cutRuns_gap (some_char gap hne) hgap hu hv,
      List.flatMap_append, List.flatMap_cons, token, List.singleton_append]
  case solid =>
    intro text hne hsolid
    rw [proseTokens_eq, cutRuns_solid (some_char text hne) hsolid, List.flatMap_singleton,
      Run.tokens, String.ofList_toList]
  case empty =>
    rw [proseTokens_eq, String.toList_empty, cutRuns, List.flatMap_nil]
  case runs =>
    intro text
    rw [runOn, Cursor.start_eq_place, run_runs, Run.ofText_eq, Nat.zero_add]

/-- A segmenter that loses all but the first character of a text, and makes empty pieces. -/
def Text.Segmenter.initials : Segmenter :=
  ⟨fun text => ["", String.ofList (text.toList.take 1), ""]⟩

/-- A gap of two characters, one of them of three bytes, before an ideograph and at the end of a
text. -/
theorem proseTokens_gap_initials :
    let s := Segmenter.initials
    let gap := "\u2003\n"
    gap ≠ "" ∧ allBlank gap = true ∧ "éa".toList.getLast?.any isBlank = false ∧
    "中b".toList.head?.any isBlank = false ∧ "".toList.head?.any isBlank = false ∧
    proseTokens s ("éa" ++ gap ++ "中b") = [⟨.text, "é"⟩, ⟨.text, gap⟩, ⟨.text, "中"⟩] ∧
    proseTokens s ("éa" ++ gap ++ "") = [⟨.text, "é"⟩, ⟨.text, gap⟩] := by
  intro s gap
  obtain ⟨gaps, solid, empty, -⟩ := proseTokens_gap s
  have first : proseTokens s "éa" = [⟨.text, "é"⟩] := solid "éa" (by decide) (by decide)
  have second : proseTokens s "中b" = [⟨.text, "中"⟩] := solid "中b" (by decide) (by decide)
  have middle := gaps "éa" gap "中b" (by decide) (by decide) (by decide) (by decide)
  have atEnd := gaps "éa" gap "" (by decide) (by decide) (by decide) (by decide)
  rw [first, second] at middle
  rw [first, empty] at atEnd
  exact ⟨by decide, by decide, by decide, by decide, by decide, middle, atEnd⟩

end Corpus
