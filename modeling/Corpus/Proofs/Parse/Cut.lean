import Corpus.Proofs.Parse.Place
import Corpus.Parse.Choice
import Mathlib.Data.List.Forall2

/-!
# Cutting a text

A *cut* is a function on texts that takes something off the front, or finds nothing there:
`List Char → Option (α × List Char)`. It knows no cursor, no failure and no going back.

`Cuts view p cut` says that the parser `p` is that function. **Where the cut takes a value, `p`
accepts it and has read `view` of it; where the cut finds nothing, `p` fails.** The parsers that
repeat one character are all one cut, `takeUntil`: they differ only in what stops them.
-/

set_option autoImplicit false

namespace Corpus.Parse

/-! ## Texts -/

/-- The characters before the first place where what is ahead makes `stop`, and what is ahead
there. -/
def takeUntil (stop : List Char → Bool) : List Char → List Char × List Char
  | [] => ([], [])
  | x :: r =>
    if stop (x :: r) then ([], x :: r) else (x :: (takeUntil stop r).1, (takeUntil stop r).2)

/-- Whether a text begins with a character that the test accepts. -/
def headIs (accepts : Char → Bool) (r : List Char) : Bool :=
  r.head?.any accepts

@[simp] theorem headIs_nil (accepts : Char → Bool) : headIs accepts [] = false := rfl

@[simp] theorem headIs_cons (accepts : Char → Bool) (x : Char) (r : List Char) :
    headIs accepts (x :: r) = accepts x := rfl

theorem headIs_dropWhile (accepts : Char → Bool) (r : List Char) :
    headIs accepts (r.dropWhile accepts) = false := by
  have h := List.head?_dropWhile_not accepts r
  unfold headIs
  cases hr : (r.dropWhile accepts).head? with
  | none => rfl
  | some x =>
    rw [hr] at h
    exact h

theorem takeWhile_of_headIs {accepts : Char → Bool} {r : List Char} (h : headIs accepts r = false) :
    r.takeWhile accepts = [] := by
  cases r with
  | nil => rfl
  | cons x r => exact List.takeWhile_cons_of_neg (ne_true_of_eq_false h)

theorem dropWhile_of_headIs {accepts : Char → Bool} {r : List Char} (h : headIs accepts r = false) :
    r.dropWhile accepts = r := by
  cases r with
  | nil => rfl
  | cons x r => exact List.dropWhile_cons_of_neg (ne_true_of_eq_false h)

theorem takeUntil_append (stop : List Char → Bool) (r : List Char) :
    (takeUntil stop r).1 ++ (takeUntil stop r).2 = r := by
  induction r with
  | nil => rfl
  | cons x r ih =>
    unfold takeUntil
    split
    · rfl
    · rw [List.cons_append, ih]

theorem takeUntil_eq_nil_iff {stop : List Char → Bool} {x : Char} {r : List Char} :
    (takeUntil stop (x :: r)).1 = [] ↔ stop (x :: r) = true := by
  unfold takeUntil
  split <;> simp_all

theorem takeUntil_headIs (accepts : Char → Bool) (r : List Char) :
    takeUntil (headIs (!accepts ·)) r = (r.takeWhile accepts, r.dropWhile accepts) := by
  induction r with
  | nil => rfl
  | cons x r ih =>
    unfold takeUntil
    rw [headIs_cons, ih]
    by_cases h : accepts x = true <;> simp [h]

namespace Parser

variable {α β : Type}

/-! ## Parsers that read one character -/

/-- `p` reads the next character, unless there is none or what is ahead makes `stop`. -/
structure ReadsUntil (p : Parser Char) (stop : List Char → Bool) : Prop where
  reads : ∀ {o x r}, stop (x :: r) = false →
    p.run (.place o (x :: r)) = .ok x (.place (o + x.utf8Size) r)
  stops : ∀ {o x r}, stop (x :: r) = true →
    ∃ e, p.run (.place o (x :: r)) = .fail e (.place o (x :: r))
  ends : ∀ {o}, ∃ e, p.run (.place o []) = .fail e (.place o [])

theorem satisfy_reads (wanted : Wanted) (accepts : Char → Bool) :
    ReadsUntil (satisfy wanted accepts) (headIs (!accepts ·)) where
  reads := by
    intro o x r h
    have hx : accepts x = true := by simpa using h
    simp [satisfy, hx]
  stops := by
    intro o x r h
    have hx : accepts x = false := by simpa using h
    exact ⟨⟨.mismatch wanted x, o⟩, by simp [satisfy, hx]⟩
  ends := ⟨⟨.endOfInput, _⟩, rfl⟩

theorem run_many1 (p : Parser α) (c : Cursor) :
    (many1 p).run c =
      match p.run c with
      | .ok v d => ((many p).run d).map (v :: ·)
      | .fail e d => .fail e d := by
  unfold many1
  rw [run_bind]
  cases p.run c with
  | fail e d => rfl
  | ok v d =>
    simp only [run_bind]
    cases (many p).run d <;> rfl

variable {p : Parser Char} {stop : List Char → Bool}

/-- Repeating such a parser takes all that is before the stop. -/
theorem ReadsUntil.run_many (h : ReadsUntil p stop) (o : Nat) (r : List Char) :
    (many p).run (.place o r) =
      .ok (takeUntil stop r).1
        (.place (o + byteCount (takeUntil stop r).1) (takeUntil stop r).2) := by
  induction r generalizing o with
  | nil =>
    obtain ⟨e, he⟩ := h.ends (o := o)
    rw [Parser.run_many, he]
    simp [Cursor.isPast_self, takeUntil]
  | cons x r ih =>
    rw [Parser.run_many]
    unfold takeUntil
    by_cases hs : stop (x :: r) = true
    · obtain ⟨e, he⟩ := h.stops (o := o) hs
      simp [he, hs, Cursor.isPast_self]
    · have hs' : stop (x :: r) = false := by simpa using hs
      simp [h.reads hs', hs', Cursor.isPast_place_cons, ih, Nat.add_assoc]

theorem ReadsUntil.run_many1_of_nil (h : ReadsUntil p stop) {o : Nat} {r : List Char}
    (hr : (takeUntil stop r).1 = []) :
    ∃ e, (many1 p).run (.place o r) = .fail e (.place o r) := by
  cases r with
  | nil =>
    obtain ⟨e, he⟩ := h.ends (o := o)
    exact ⟨e, by rw [run_many1, he]⟩
  | cons x r =>
    obtain ⟨e, he⟩ := h.stops (o := o) (takeUntil_eq_nil_iff.1 hr)
    exact ⟨e, by rw [run_many1, he]⟩

theorem ReadsUntil.run_many1_of_ne_nil (h : ReadsUntil p stop) {o : Nat} {r : List Char}
    (hr : (takeUntil stop r).1 ≠ []) :
    (many1 p).run (.place o r) =
      .ok (takeUntil stop r).1
        (.place (o + byteCount (takeUntil stop r).1) (takeUntil stop r).2) := by
  cases r with
  | nil => exact absurd rfl hr
  | cons x r =>
    have hs : stop (x :: r) = false := by
      simpa using fun hs => hr (takeUntil_eq_nil_iff.2 hs)
    rw [run_many1, h.reads hs]
    simp [h.run_many, takeUntil, hs, Nat.add_assoc]

/-! ## Parsers that are a cut -/

/-- `p` accepts where `cut` takes something off the front, with that value and behind the text that
`view` makes of it. Elsewhere it fails, and may have moved. -/
structure Cuts (view : α → List Char) (p : Parser α)
    (cut : List Char → Option (α × List Char)) : Prop where
  accepts : ∀ {o r v rest}, cut r = some (v, rest) →
    p.run (.place o r) = .ok v (.place (o + byteCount (view v)) rest)
  refuses : ∀ {o r}, cut r = none → ∃ e d, p.run (.place o r) = .fail e d

def nonempty : List Char × List Char → Option (List Char × List Char)
  | ([], _) => none
  | (text, rest) => some (text, rest)

theorem nonempty_eq_some {cut : List Char × List Char} {text rest : List Char} :
    nonempty cut = some (text, rest) ↔ cut = (text, rest) ∧ text ≠ [] := by
  obtain ⟨_ | ⟨x, s⟩, t⟩ := cut
  · simp only [nonempty, reduceCtorEq, Prod.mk.injEq, false_iff]
    rintro ⟨⟨rfl, -⟩, h⟩
    exact h rfl
  · simp only [nonempty, Option.some.injEq, Prod.mk.injEq]
    constructor
    · rintro ⟨rfl, rfl⟩
      exact ⟨⟨rfl, rfl⟩, List.cons_ne_nil x s⟩
    · exact And.left

theorem nonempty_eq_none {cut : List Char × List Char} : nonempty cut = none ↔ cut.1 = [] := by
  obtain ⟨_ | ⟨x, s⟩, t⟩ := cut <;> simp [nonempty]

theorem ReadsUntil.cuts_many1 (h : ReadsUntil p stop) :
    Cuts id (many1 p) fun r => nonempty (takeUntil stop r) where
  accepts := by
    intro o r v rest hr
    obtain ⟨ht, hne⟩ := nonempty_eq_some.1 hr
    have ht1 : (takeUntil stop r).1 = v := by rw [ht]
    rw [h.run_many1_of_ne_nil (ht1 ▸ hne), ht]
    rfl
  refuses := by
    intro o r hr
    obtain ⟨e, he⟩ := h.run_many1_of_nil (o := o) (nonempty_eq_none.1 hr)
    exact ⟨e, _, he⟩

/-- What is behind a text, if that text comes next. -/
def cutText (text r : List Char) : Option (List Char × List Char) :=
  if text <+: r then some (text, r.drop text.length) else none

theorem cutText_append (text r : List Char) : cutText text (text ++ r) = some (text, r) := by
  simp [cutText]

theorem cutText_eq_some {text r v rest : List Char} :
    cutText text r = some (v, rest) ↔ v = text ∧ r = text ++ rest := by
  unfold cutText
  split
  · rename_i h
    obtain ⟨s, rfl⟩ := h
    simp [eq_comm]
  · rename_i h
    simp only [reduceCtorEq, false_iff]
    rintro ⟨-, rfl⟩
    exact h (List.prefix_append _ _)

theorem cutText_eq_none {text r : List Char} : cutText text r = none ↔ ¬ text <+: r := by
  simp [cutText]

theorem run_text_append (o : Nat) (expected : String) (r : List Char) :
    (text expected).run (.place o (expected.toList ++ r)) =
      .ok expected.toList (.place (o + byteCount expected.toList) r) := by
  simp [text, Cursor.skip?_place_append]

/-- A text that does not come next is refused in place, and the reason is the end of the input
exactly if nothing comes next. -/
theorem run_text_of_not_ahead {o : Nat} {expected : String} {r : List Char}
    (h : ¬ expected.toList <+: r) :
    ∃ e, (text expected).run (.place o r) = .fail e (.place o r) ∧
      e.isEndOfInput = r.isEmpty := by
  unfold text
  simp only [Cursor.skip?_place_eq_none h, Cursor.atEnd_place, Cursor.offset_place]
  cases r with
  | nil => exact ⟨⟨.endOfInput, o⟩, rfl, rfl⟩
  | cons x r => exact ⟨⟨.notText expected, o⟩, rfl, rfl⟩

theorem Cuts.map {view : α → List Char} {view' : β → List Char} {p : Parser α}
    {cut : List Char → Option (α × List Char)} (h : Cuts view p cut) (f : α → β)
    (hf : ∀ v, view' (f v) = view v) :
    Cuts view' (f <$> p) fun r => (cut r).map fun (v, rest) => (f v, rest) where
  accepts := by
    intro o r w rest hr
    obtain ⟨⟨v, rest'⟩, hv, hw⟩ := Option.map_eq_some_iff.1 hr
    obtain ⟨rfl, rfl⟩ := Prod.mk.inj hw
    rw [run_map, h.accepts hv, Reply.map_ok, hf]
  refuses := by
    intro o r hr
    obtain ⟨e, d, he⟩ := h.refuses (o := o) (Option.map_eq_none_iff.1 hr)
    exact ⟨e, d, by rw [run_map, he, Reply.map_fail]⟩

/-! ## Choice among attempts -/

section

variable {view : α → List Char} {p : Parser α} {cut : List Char → Option (α × List Char)}

theorem Cuts.run_attempt_of_some (h : Cuts view p cut) {o : Nat} {r : List Char} {v : α}
    {rest : List Char} (hr : cut r = some (v, rest)) :
    (attempt p).run (.place o r) = .ok v (.place (o + byteCount (view v)) rest) := by
  simp [attempt, h.accepts hr]

theorem Cuts.run_attempt_of_none (h : Cuts view p cut) {o : Nat} {r : List Char}
    (hr : cut r = none) : ∃ e, (attempt p).run (.place o r) = .fail e (.place o r) := by
  obtain ⟨e, d, he⟩ := h.refuses (o := o) hr
  exact ⟨e, by simp [attempt, he]⟩

theorem run_choice (ps : List (Parser α)) (c : Cursor) :
    (choice ps).run c = choiceOr ⟨.noAlternative, c.offset⟩ ps c := rfl

theorem choiceOr_cons_of_ok {e : Failure} {p : Parser α} {ps : List (Parser α)} {c d : Cursor}
    {v : α} (h : p.run c = .ok v d) : choiceOr e (p :: ps) c = .ok v d := by
  simp [choiceOr, h]

/-- An alternative that fails in place is passed over. -/
theorem choiceOr_cons_of_fail {e e' : Failure} {p : Parser α} {ps : List (Parser α)} {c : Cursor}
    (h : p.run c = .fail e' c) : choiceOr e (p :: ps) c = choiceOr e' ps c := by
  simp [choiceOr, h, Cursor.isPast_self]

/-- A choice accepts only what one of its alternatives accepts. -/
theorem exists_of_choiceOr_eq_ok {e : Failure} {ps : List (Parser α)} {c d : Cursor} {v : α}
    (h : choiceOr e ps c = .ok v d) : ∃ p ∈ ps, p.run c = .ok v d := by
  induction ps generalizing e with
  | nil => cases h
  | cons p ps ih =>
    unfold choiceOr at h
    split at h
    · rename_i w f hrun
      cases h
      exact ⟨p, List.mem_cons_self, hrun⟩
    · split at h
      · cases h
      · obtain ⟨q, hq, hrun⟩ := ih h
        exact ⟨q, List.mem_cons_of_mem p hq, hrun⟩

end

/-! ## Probes -/

/-- `p` accepts where the test holds, with any value and anywhere behind, and elsewhere fails
without moving. -/
structure Probes (p : Parser α) (test : List Char → Bool) : Prop where
  accepts : ∀ {o r}, test r = true → ∃ v d, p.run (.place o r) = .ok v d
  refuses : ∀ {o r}, test r = false → ∃ e, p.run (.place o r) = .fail e (.place o r)

section

variable {p : Parser α} {test : List Char → Bool}

theorem Probes.map (h : Probes p test) (f : α → β) : Probes (f <$> p) test where
  accepts := by
    intro o r hr
    obtain ⟨v, d, hv⟩ := h.accepts (o := o) hr
    exact ⟨f v, d, by rw [run_map, hv, Reply.map_ok]⟩
  refuses := by
    intro o r hr
    obtain ⟨e, he⟩ := h.refuses (o := o) hr
    exact ⟨e, by rw [run_map, he, Reply.map_fail]⟩

theorem Cuts.probes_attempt {view : α → List Char} {cut : List Char → Option (α × List Char)}
    (h : Cuts view p cut) : Probes (attempt p) fun r => (cut r).isSome where
  accepts := by
    intro o r hr
    obtain ⟨⟨v, rest⟩, hv⟩ := Option.isSome_iff_exists.1 hr
    exact ⟨v, _, h.run_attempt_of_some hv⟩
  refuses := by
    intro o r hr
    exact h.run_attempt_of_none (Option.isNone_iff_eq_none.1 (Option.isSome_eq_false_iff.1 hr))

theorem ReadsUntil.probes {p : Parser Char} {accepts : Char → Bool}
    (h : ReadsUntil p (headIs (!accepts ·))) : Probes p (headIs accepts) where
  accepts := by
    intro o r hr
    cases r with
    | nil => cases hr
    | cons x r => exact ⟨x, _, h.reads (by simpa using hr)⟩
  refuses := by
    intro o r hr
    cases r with
    | nil => exact h.ends
    | cons x r => exact h.stops (by simpa using hr)

theorem probes_text (expected : String) :
    Probes (text expected) (expected.toList.isPrefixOf ·) where
  accepts := by
    intro o r hr
    obtain ⟨s, rfl⟩ := List.isPrefixOf_iff_prefix.1 hr
    exact ⟨_, _, run_text_append o expected s⟩
  refuses := by
    intro o r hr
    have h : ¬ expected.toList <+: r := by simpa [← List.isPrefixOf_iff_prefix] using hr
    obtain ⟨e, he, -⟩ := run_text_of_not_ahead (o := o) h
    exact ⟨e, he⟩

theorem probes_choiceOr {ps : List (Parser α)} {tests : List (List Char → Bool)}
    (h : List.Forall₂ Probes ps tests) (o : Nat) (r : List Char) (e : Failure) :
    (tests.any (· r) = true → ∃ v d, choiceOr e ps (.place o r) = .ok v d) ∧
    (tests.any (· r) = false → ∃ e', choiceOr e ps (.place o r) = .fail e' (.place o r)) := by
  induction h generalizing e with
  | nil => exact ⟨fun h => absurd h Bool.false_ne_true, fun _ => ⟨e, rfl⟩⟩
  | @cons p test ps tests hp _ ih =>
    cases ht : test r with
    | true =>
      obtain ⟨v, d, hv⟩ := hp.accepts (o := o) ht
      exact ⟨fun _ => ⟨v, d, choiceOr_cons_of_ok hv⟩, fun h => by simp [ht] at h⟩
    | false =>
      obtain ⟨e', he⟩ := hp.refuses (o := o) ht
      rw [choiceOr_cons_of_fail he, List.any_cons, ht, Bool.false_or]
      exact ih e'

theorem probes_choice {ps : List (Parser α)} {tests : List (List Char → Bool)}
    (h : List.Forall₂ Probes ps tests) : Probes (choice ps) fun r => tests.any (· r) where
  accepts := fun hr => (probes_choiceOr h _ _ _).1 hr
  refuses := fun hr => (probes_choiceOr h _ _ _).2 hr

theorem Probes.run_ahead_of_true (h : Probes p test) {o : Nat} {r : List Char}
    (hr : test r = true) : ∃ v, (ahead p).run (.place o r) = .ok v (.place o r) := by
  obtain ⟨v, d, hv⟩ := h.accepts (o := o) hr
  exact ⟨v, by simp [ahead, hv]⟩

theorem Probes.run_ahead_of_false (h : Probes p test) {o : Nat} {r : List Char}
    (hr : test r = false) : ∃ e, (ahead p).run (.place o r) = .fail e (.place o r) := by
  obtain ⟨e, he⟩ := h.refuses (o := o) hr
  exact ⟨e, by simp [ahead, he]⟩

end

end Parser

end Corpus.Parse
