import Corpus.Proofs.Parse.Cut

/-!
# Choices among alternatives

A choice asks its alternatives in order and carries the failure of the last one asked. What it does
with a reply is one step, `Reply.orGoOn`: it passes the reply on, unless that is a failure in place;
then it goes on with that failure. **A choice among alternatives put one behind the other is two
choices, joined by the same step** (`choiceOr_append`). That is why a choice within a choice can be
taken apart: the inner one leaves the cursor past the mark of the outer one or exactly on it, since
both have the same mark.

Attempts fail in place, whatever they have read. So a choice among attempts asks on until one of
them accepts, and it accepts wherever the alternatives do without them.
-/

set_option autoImplicit false

namespace Corpus.Parse

variable {α : Type}

/-- The reply as it is, unless it is a failure that has not moved past the cursor; then what comes
of that failure. -/
def Reply.orGoOn (c : Cursor) (next : Failure → Reply α) : Reply α → Reply α
  | .ok v d => .ok v d
  | .fail e d => if d.isPast c then .fail e d else next e

namespace Parser

variable {p : Parser α} {ps qs : List (Parser α)} {e e' : Failure} {c d : Cursor} {v : α}

/-! ## Choices one behind the other -/

theorem choiceOr_cons (e : Failure) (p : Parser α) (ps : List (Parser α)) (c : Cursor) :
    choiceOr e (p :: ps) c = (p.run c).orGoOn c fun e' => choiceOr e' ps c := by
  rw [choiceOr]
  cases p.run c <;> rfl

theorem choiceOr_append (e : Failure) (ps qs : List (Parser α)) (c : Cursor) :
    choiceOr e (ps ++ qs) c = (choiceOr e ps c).orGoOn c fun e' => choiceOr e' qs c := by
  induction ps generalizing e with
  | nil => simp [choiceOr, Reply.orGoOn, c.isPast_self]
  | cons p ps ih =>
    rw [List.cons_append, choiceOr_cons, choiceOr_cons]
    cases p.run c with
    | ok v d => rfl
    | fail e' d =>
      by_cases past : d.isPast c = true
      · simp [Reply.orGoOn, past]
      · simpa [Reply.orGoOn, past] using ih e'

/-- With an alternative to ask, it does not matter what failed before. -/
theorem choiceOr_of_ne_nil (h : ps ≠ []) : choiceOr e ps c = choiceOr e' ps c := by
  obtain ⟨p, ps, rfl⟩ := List.exists_cons_of_ne_nil h
  rw [choiceOr_cons, choiceOr_cons]

/-- A choice that is the only alternative answers for itself. -/
theorem choiceOr_choice (h : ps ≠ []) : choiceOr e [choice ps] c = choiceOr e ps c := by
  calc choiceOr e [choice ps] c
      = ((choice ps).run c).orGoOn c fun e' => choiceOr e' [] c := choiceOr_cons e (choice ps) [] c
    _ = (choiceOr e ps c).orGoOn c fun e' => choiceOr e' [] c := by
        rw [run_choice, choiceOr_of_ne_nil h]
    _ = choiceOr e (ps ++ []) c := (choiceOr_append e ps [] c).symm
    _ = choiceOr e ps c := by rw [List.append_nil]

theorem run_choice_nested (xs : List (Parser α)) {ys : List (Parser α)} (h : ys ≠ [])
    (zs : List (Parser α)) (c : Cursor) :
    (choice (xs ++ [choice ys] ++ zs)).run c = (choice (xs ++ ys ++ zs)).run c := by
  simp only [run_choice, choiceOr_append, choiceOr_choice h]

/-! ## Choices among attempts -/

theorem run_attempt_of_ok (h : p.run c = .ok v d) : p.attempt.run c = .ok v d := by
  simp [attempt, h]

theorem run_attempt_of_fail (h : p.run c = .fail e d) : p.attempt.run c = .fail e c := by
  simp [attempt, h]

/-- The alternatives before the one that accepts are passed over, however far they got. -/
theorem choiceOr_attempts_of_ok {before behind : List (Parser α)}
    (hbefore : ∀ q ∈ before, ∃ e f, q.run c = .fail e f) (h : p.run c = .ok v d) :
    choiceOr e ((before ++ p :: behind).map attempt) c = .ok v d := by
  induction before generalizing e with
  | nil => exact choiceOr_cons_of_ok (run_attempt_of_ok h)
  | cons q before ih =>
    obtain ⟨e', f, fails⟩ := hbefore q List.mem_cons_self
    rw [List.cons_append, List.map_cons, choiceOr_cons_of_fail (run_attempt_of_fail fails)]
    exact ih fun q' hq' => hbefore q' (List.mem_cons_of_mem q hq')

/-- If no alternative accepts, the failure of the last one stands, in place. -/
theorem exists_choiceOr_attempts_eq_fail (h : ∀ p ∈ ps, ∃ e f, p.run c = .fail e f) :
    ∃ e', choiceOr e (ps.map attempt) c = .fail e' c ∧
      (∀ p ∈ ps.getLast?, ∃ f, p.run c = .fail e' f) ∧ (ps = [] → e' = e) := by
  induction ps generalizing e with
  | nil =>
    refine ⟨e, rfl, ?_, fun _ => rfl⟩
    intro p hp
    cases hp
  | cons p ps ih =>
    obtain ⟨e', f, fails⟩ := h p List.mem_cons_self
    obtain ⟨last, hrun, hlast, hnone⟩ :=
      ih (e := e') fun q hq => h q (List.mem_cons_of_mem p hq)
    refine ⟨last, ?_, ?_, fun nil => absurd nil (List.cons_ne_nil p ps)⟩
    · rw [List.map_cons, choiceOr_cons_of_fail (run_attempt_of_fail fails), hrun]
    · cases ps with
      | nil =>
        intro q hq
        obtain rfl : p = q := Option.some.inj hq
        exact ⟨f, by rw [hnone rfl, fails]⟩
      | cons q ps =>
        rw [List.getLast?_cons_cons]
        exact hlast

/-- Either all alternatives fail or there is a first one that accepts. -/
theorem forall_fail_or_exists_ok (ps : List (Parser α)) (c : Cursor) :
    (∀ p ∈ ps, ∃ e f, p.run c = .fail e f) ∨
    ∃ before p behind v d, ps = before ++ p :: behind ∧
      (∀ q ∈ before, ∃ e f, q.run c = .fail e f) ∧ p.run c = .ok v d := by
  induction ps with
  | nil => exact .inl (List.forall_mem_nil _)
  | cons p ps ih =>
    cases hr : p.run c with
    | ok v d => exact .inr ⟨[], p, ps, v, d, rfl, List.forall_mem_nil _, hr⟩
    | fail e f =>
      rcases ih with all | ⟨before, q, behind, v, d, rfl, hbefore, accepts⟩
      · exact .inl (List.forall_mem_cons.2 ⟨⟨e, f, hr⟩, all⟩)
      · exact .inr ⟨p :: before, q, behind, v, d, rfl,
          List.forall_mem_cons.2 ⟨⟨e, f, hr⟩, hbefore⟩, accepts⟩

theorem run_choice_attempts_eq_ok :
    (choice (ps.map attempt)).run c = .ok v d ↔
      ∃ before p behind, ps = before ++ p :: behind ∧
        (∀ q ∈ before, ∃ e f, q.run c = .fail e f) ∧ p.run c = .ok v d := by
  constructor
  · intro h
    rcases forall_fail_or_exists_ok ps c with
      all | ⟨before, p, behind, w, f, rfl, hbefore, accepts⟩
    · obtain ⟨e', fails, -⟩ := exists_choiceOr_attempts_eq_fail all
      rw [run_choice, fails] at h
      cases h
    · rw [run_choice, choiceOr_attempts_of_ok hbefore accepts] at h
      obtain ⟨rfl, rfl⟩ := Reply.ok.inj h
      exact ⟨before, p, behind, rfl, hbefore, accepts⟩
  · rintro ⟨before, p, behind, rfl, hbefore, accepts⟩
    exact choiceOr_attempts_of_ok hbefore accepts

/-- What a choice accepts it accepts of attempts too. -/
theorem choiceOr_attempts_of_choiceOr (h : choiceOr e ps c = .ok v d) :
    choiceOr e (ps.map attempt) c = .ok v d := by
  induction ps generalizing e with
  | nil => cases h
  | cons p ps ih =>
    rw [choiceOr_cons] at h
    cases hr : p.run c with
    | ok w f =>
      rw [hr] at h
      rw [List.map_cons, choiceOr_cons_of_ok (run_attempt_of_ok hr)]
      exact h
    | fail e' f =>
      rw [hr] at h
      by_cases past : f.isPast c = true
      · simp [Reply.orGoOn, past] at h
      · simp only [Reply.orGoOn, past, Bool.false_eq_true, if_false] at h
        rw [List.map_cons, choiceOr_cons_of_fail (run_attempt_of_fail hr)]
        exact ih h

/-- **A choice within a choice may be taken apart, and among attempts the first that accepts
wins.** A choice that has alternatives can stand among others or its alternatives in its place; the
reply is the same. A choice among attempts accepts if some alternative does, with the value and the
cursor of the first that does, and otherwise fails in place, with the failure of the last one, if
there is one. It accepts whatever the choice among the alternatives themselves accepts. -/
theorem choice_of_choices (xs ys zs ps : List (Parser α)) (c : Cursor) :
    (ys ≠ [] → (choice (xs ++ [choice ys] ++ zs)).run c = (choice (xs ++ ys ++ zs)).run c) ∧
    ((∃ v d, (choice (ps.map attempt)).run c = .ok v d) ↔
      ∃ p ∈ ps, ∃ v d, p.run c = .ok v d) ∧
    (∀ v d, (choice (ps.map attempt)).run c = .ok v d ↔
      ∃ before p behind, ps = before ++ p :: behind ∧
        (∀ q ∈ before, ∃ e f, q.run c = .fail e f) ∧ p.run c = .ok v d) ∧
    ((∀ p ∈ ps, ∃ e f, p.run c = .fail e f) →
      ∃ e, (choice (ps.map attempt)).run c = .fail e c ∧
        (∀ p ∈ ps.getLast?, ∃ f, p.run c = .fail e f) ∧
        (ps = [] → e = ⟨.noAlternative, c.offset⟩)) ∧
    (∀ v d, (choice ps).run c = .ok v d → (choice (ps.map attempt)).run c = .ok v d) := by
  refine ⟨?nested, ?some, fun _ _ => run_choice_attempts_eq_ok, ?none,
    fun _ _ => choiceOr_attempts_of_choiceOr⟩
  case nested =>
    intro h
    exact run_choice_nested xs h zs c
  case some =>
    constructor
    · rintro ⟨v, d, h⟩
      obtain ⟨before, p, behind, rfl, -, accepts⟩ := run_choice_attempts_eq_ok.1 h
      exact ⟨p, List.mem_append_right before List.mem_cons_self, v, d, accepts⟩
    · rintro ⟨p, hp, v, d, accepts⟩
      rcases forall_fail_or_exists_ok ps c with
        all | ⟨before, q, behind, w, f, whole, hbefore, accepts'⟩
      · obtain ⟨e, f, fails⟩ := all p hp
        rw [accepts] at fails
        cases fails
      · exact ⟨w, f, run_choice_attempts_eq_ok.2 ⟨before, q, behind, whole, hbefore, accepts'⟩⟩
  case none =>
    intro all
    exact exists_choiceOr_attempts_eq_fail all

/-- An alternative that reads two characters and fails. It ends the choice, nested or not; as an
attempt it is passed over, and where it is the last it tells the failure. -/
theorem choice_of_choices_torn :
    let torn := (Parser.text "éb").andThen (Parser.char 'c')
    let whole := (Parser.text "éb").andThen (Parser.char 'x')
    let c := Cursor.place 1 "ébx".toList
    [torn, whole] ≠ [] ∧
    (choice ([Parser.char 'y'] ++ [choice [torn, whole]] ++ [Parser.one])).run c =
      (choice ([Parser.char 'y'] ++ [torn, whole] ++ [Parser.one])).run c ∧
    (choice ([torn, whole].map attempt)).run c = .ok 'x' (.place 5 []) ∧
    (∀ p ∈ [Parser.char 'y', torn], ∃ e f, p.run c = .fail e f) ∧
    (∃ e, (choice ([Parser.char 'y', torn].map attempt)).run c = .fail e c ∧
      ∀ p ∈ [Parser.char 'y', torn].getLast?, ∃ f, p.run c = .fail e f) ∧
    (choice [Parser.char 'y', whole]).run c = .ok 'x' (.place 5 []) ∧
    (choice ([Parser.char 'y', whole].map attempt)).run c = .ok 'x' (.place 5 []) := by
  intro torn whole c
  have some_ys : [torn, whole] ≠ [] := List.cons_ne_nil _ _
  have torn_fails : torn.run c = .fail ⟨.mismatch (.char 'c') 'x', 4⟩ (.place 4 ['x']) := rfl
  have whole_accepts : whole.run c = .ok 'x' (.place 5 []) := rfl
  have accepted : (choice [Parser.char 'y', whole]).run c = .ok 'x' (.place 5 []) := rfl
  have all : ∀ p ∈ [Parser.char 'y', torn], ∃ e f, p.run c = .fail e f := by
    simp only [List.forall_mem_cons]
    exact ⟨⟨_, _, rfl⟩, ⟨_, _, torn_fails⟩, List.forall_mem_nil _⟩
  obtain ⟨nested, -, first, -, -⟩ :=
    choice_of_choices [Parser.char 'y'] [torn, whole] [Parser.one] [torn, whole] c
  obtain ⟨-, -, -, none_accepts, -⟩ := choice_of_choices [] [] [] [Parser.char 'y', torn] c
  obtain ⟨-, -, -, -, attempts⟩ := choice_of_choices [] [] [] [Parser.char 'y', whole] c
  obtain ⟨e, fails, last, -⟩ := none_accepts all
  have before : ∀ q ∈ [torn], ∃ e f, q.run c = .fail e f :=
    List.forall_mem_singleton.2 ⟨_, _, torn_fails⟩
  exact ⟨some_ys, nested some_ys, (first _ _).2 ⟨[torn], whole, [], rfl, before, whole_accepts⟩,
    all, ⟨e, fails, last⟩, accepted, attempts _ _ accepted⟩

end Parser

end Corpus.Parse
