import Corpus.Proofs.Parse.Place
import Corpus.Proofs.Parse.Compositional

/-!
# Reading goes forward

`c.Reaches d` says that the cursor `d` is in the text that is ahead of `c`: some characters were
read between the two, or none. It is stated about characters, so whatever is reached from a place
between two characters is one again.

A reply `Advances` a cursor if it stands at a place that the cursor reaches, and a failure arose
there or further on: **a failure never leaves the cursor beyond the point where it arose**. To go
back, as `attempt` and `ahead` do, is therefore always allowed: the point of a failure stays ahead.
A failure of having run out of input arose at the end of the text. `advances` proves this of every
parser that the combinators make.
-/

set_option autoImplicit false

namespace Corpus.Parse

variable {α β : Type}

/-! ## Places ahead -/

/-- The second cursor is where the first one is after some of its rest. -/
def Cursor.Reaches (c d : Cursor) : Prop :=
  ∃ text, c.rest = text ++ d.rest ∧ d.offset = c.offset + byteCount text

namespace Cursor.Reaches

variable {c d f : Cursor}

theorem refl (c : Cursor) : c.Reaches c :=
  ⟨[], rfl, rfl⟩

theorem trans (h : c.Reaches d) (h' : d.Reaches f) : c.Reaches f := by
  obtain ⟨text, hrest, hoffset⟩ := h
  obtain ⟨text', hrest', hoffset'⟩ := h'
  refine ⟨text ++ text', ?_, ?_⟩
  · rw [hrest, hrest', List.append_assoc]
  · rw [hoffset', hoffset, byteCount_append, Nat.add_assoc]

theorem next {x : Char} (h : c.next? = some (x, d)) : c.Reaches d := by
  rw [c.eq_place] at h
  cases hr : c.rest with
  | nil =>
    rw [hr, next?_place_nil] at h
    cases h
  | cons y r =>
    rw [hr, next?_place_cons, Option.some.injEq, Prod.mk.injEq] at h
    obtain ⟨rfl, rfl⟩ := h
    exact ⟨[y], hr, rfl⟩

theorem skip {text : List Char} (h : c.skip? text = some d) : c.Reaches d := by
  rw [c.eq_place] at h
  by_cases ht : text <+: c.rest
  · obtain ⟨r, hr⟩ := ht
    rw [← hr, skip?_place_append, Option.some.injEq] at h
    subst h
    exact ⟨text, hr.symm, rfl⟩
  · rw [skip?_place_eq_none ht] at h
    cases h

theorem offset_le (h : c.Reaches d) : c.offset ≤ d.offset := by
  obtain ⟨text, -, hoffset⟩ := h
  omega

/-- To reach a place is to stay or to move past where one was. -/
theorem eq_or_isPast (h : c.Reaches d) : d = c ∨ c.offset < d.offset ∧ d.isPast c = true := by
  obtain ⟨text, hrest, hoffset⟩ := h
  cases text with
  | nil => exact .inl (Cursor.ext hoffset hrest.symm)
  | cons x text =>
    have pos := byteCount_pos (List.cons_ne_nil x text)
    have hleft := c.left_eq
    rw [hrest, byteCount_append, ← d.left_eq] at hleft
    refine .inr ⟨by omega, ?_⟩
    simp only [Cursor.isPast, decide_eq_true_eq]
    omega

theorem isPast_of_offset_lt (h : c.Reaches d) (moves : c.offset < d.offset) :
    d.isPast c = true := by
  rcases h.eq_or_isPast with rfl | ⟨-, past⟩
  · exact absurd moves (Nat.lt_irrefl _)
  · exact past

theorem length_le (h : c.Reaches d) : d.rest.length ≤ c.rest.length := by
  obtain ⟨text, hrest, -⟩ := h
  rw [hrest, List.length_append]
  exact Nat.le_add_left _ _

/-- There are fewer characters ahead after each move. -/
theorem length_lt (h : c.Reaches d) (moves : c.offset < d.offset) :
    d.rest.length < c.rest.length := by
  obtain ⟨text, hrest, hoffset⟩ := h
  cases text with
  | nil =>
    rw [byteCount_nil] at hoffset
    omega
  | cons x text =>
    rw [hrest, List.length_append, List.length_cons]
    omega

end Cursor.Reaches

theorem Cursor.rest_of_next?_eq_none {c : Cursor} (h : c.next? = none) : c.rest = [] := by
  rw [c.eq_place] at h
  cases hr : c.rest with
  | nil => rfl
  | cons x r =>
    rw [hr, next?_place_cons] at h
    cases h

theorem Cursor.rest_of_atEnd {c : Cursor} (h : c.atEnd = true) : c.rest = [] :=
  List.isEmpty_iff.1 h

/-! ## Points of failure -/

/-- The failure arose at a place that the cursor reaches, and at the end of the text if its reason
is the end of the input. -/
def Failure.LiesAhead (e : Failure) (c : Cursor) : Prop :=
  ∃ point : Cursor, c.Reaches point ∧ e.offset = point.offset ∧
    (e.isEndOfInput = true → point.rest = [])

namespace Failure.LiesAhead

variable {e : Failure} {c d : Cursor}

theorem of_reaches (h : e.LiesAhead d) (hcd : c.Reaches d) : e.LiesAhead c := by
  obtain ⟨point, hpoint, hoffset, hend⟩ := h
  exact ⟨point, hcd.trans hpoint, hoffset, hend⟩

/-- A failure that arose where the cursor stands. -/
theorem here {cause : Cause} (hend : cause.isEndOfInput = true → c.rest = []) :
    (⟨cause, c.offset⟩ : Failure).LiesAhead c :=
  ⟨c, .refl c, rfl, hend⟩

/-- A failure for another reason than the end of the input. -/
theorem here_of_ne {cause : Cause} (hcause : cause.isEndOfInput = false) :
    (⟨cause, c.offset⟩ : Failure).LiesAhead c :=
  here fun hend => by rw [hcause] at hend; cases hend

end Failure.LiesAhead

/-! ## Replies and parsers -/

/-- The reply stands at a place that the cursor reaches, and before the point of its failure. -/
def Reply.Advances (c : Cursor) : Reply α → Prop
  | .ok _ d => c.Reaches d
  | .fail e d => c.Reaches d ∧ e.LiesAhead d

namespace Reply.Advances

variable {c d : Cursor}

theorem of_reaches {reply : Reply α} (h : reply.Advances d) (hcd : c.Reaches d) :
    reply.Advances c := by
  cases reply with
  | ok v f => exact hcd.trans h
  | fail e f => exact ⟨hcd.trans h.1, h.2⟩

theorem map {reply : Reply α} (h : reply.Advances c) (f : α → β) : (reply.map f).Advances c := by
  cases reply with
  | ok v d => exact h
  | fail e d => exact h

/-- A failure may be answered where the reading began. -/
theorem back {e : Failure} (h : (Reply.fail e d : Reply α).Advances c) :
    (Reply.fail e c : Reply β).Advances c :=
  ⟨.refl c, h.2.of_reaches h.1⟩

/-- A failure in place. -/
theorem fail_here {cause : Cause} (hend : cause.isEndOfInput = true → c.rest = []) :
    (Reply.fail ⟨cause, c.offset⟩ c : Reply α).Advances c :=
  ⟨.refl c, .here hend⟩

end Reply.Advances

/-- Wherever the parser runs, it goes forward, and fails no earlier than where it stops. -/
def Parser.Advances (p : Parser α) : Prop :=
  ∀ c : Cursor, (p.run c).Advances c

namespace Parser.Advances

/-! ## Parsers that look at the input -/

theorem one : Advances Parser.one := by
  intro c
  unfold Parser.one
  dsimp only
  split
  · rename_i x d h
    exact Cursor.Reaches.next h
  · rename_i h
    exact .fail_here fun _ => Cursor.rest_of_next?_eq_none h

theorem satisfy (wanted : Wanted) (accepts : Char → Bool) :
    Advances (Parser.satisfy wanted accepts) := by
  intro c
  unfold Parser.satisfy
  dsimp only
  split
  · rename_i x d h
    split
    · exact Cursor.Reaches.next h
    · exact ⟨.refl c, .here_of_ne rfl⟩
  · rename_i h
    exact .fail_here fun _ => Cursor.rest_of_next?_eq_none h

/-- What fails in place, for want of input only at the end. -/
theorem fail_at_end_or {c : Cursor} {cause : Cause} (hcause : cause.isEndOfInput = false) :
    Reply.Advances c (if c.atEnd then .fail ⟨.endOfInput, c.offset⟩ c
      else .fail ⟨cause, c.offset⟩ c : Reply α) := by
  split
  · rename_i h
    exact .fail_here fun _ => Cursor.rest_of_atEnd h
  · exact ⟨.refl c, .here_of_ne hcause⟩

theorem text (expected : String) : Advances (Parser.text expected) := by
  intro c
  unfold Parser.text
  dsimp only
  split
  · rename_i d h
    exact Cursor.Reaches.skip h
  · exact fail_at_end_or rfl

theorem newline : Advances Parser.newline := by
  intro c
  unfold Parser.newline
  dsimp only
  split
  · rename_i d h
    exact Cursor.Reaches.skip h
  · split
    · rename_i d h
      exact Cursor.Reaches.skip h
    · exact fail_at_end_or rfl

theorem endOfInput : Advances Parser.endOfInput := by
  intro c
  unfold Parser.endOfInput
  dsimp only
  split
  · exact Cursor.Reaches.refl c
  · exact ⟨.refl c, .here_of_ne rfl⟩

/-! ## Combinators -/

variable {p : Parser α}

theorem bind {next : α → Parser β} (hp : p.Advances) (hnext : ∀ value, (next value).Advances) :
    (p >>= next).Advances := by
  intro c
  have h := hp c
  rw [run_bind]
  cases hr : p.run c with
  | ok v d =>
    rw [hr] at h
    exact (hnext v d).of_reaches h
  | fail e d =>
    rw [hr] at h
    exact h

theorem attempt (hp : p.Advances) : p.attempt.Advances := by
  intro c
  have h := hp c
  unfold Parser.attempt
  cases hr : p.run c with
  | ok v d =>
    simp only [hr] at h ⊢
    exact h
  | fail e d =>
    simp only [hr] at h ⊢
    exact h.back

theorem ahead (hp : p.Advances) : p.ahead.Advances := by
  intro c
  have h := hp c
  unfold Parser.ahead
  cases hr : p.run c with
  | ok v d =>
    simp only [hr]
    exact Cursor.Reaches.refl c
  | fail e d =>
    simp only [hr] at h ⊢
    exact h.back

theorem optional (hp : p.Advances) : p.optional.Advances := by
  intro c
  have h := hp c
  unfold Parser.optional
  cases hr : p.run c with
  | ok v d =>
    simp only [hr] at h ⊢
    exact h
  | fail e d =>
    simp only [hr] at h ⊢
    split
    · exact h
    · exact Cursor.Reaches.refl c

theorem choiceOr {ps : List (Parser α)} (hps : ∀ p ∈ ps, p.Advances) {c : Cursor} {e : Failure}
    (he : e.LiesAhead c) : (Parser.choiceOr e ps c).Advances c := by
  induction ps generalizing e with
  | nil => exact ⟨.refl c, he⟩
  | cons p ps ih =>
    have h := hps p List.mem_cons_self c
    have htail : ∀ q ∈ ps, q.Advances := fun q hq => hps q (List.mem_cons_of_mem p hq)
    unfold Parser.choiceOr
    cases hr : p.run c with
    | ok v d =>
      rw [hr] at h
      exact h
    | fail e' d =>
      rw [hr] at h
      dsimp only
      split
      · exact h
      · exact ih htail (h.2.of_reaches h.1)

theorem choice {ps : List (Parser α)} (hps : ∀ p ∈ ps, p.Advances) :
    (Parser.choice ps).Advances := by
  intro c
  exact choiceOr hps (.here_of_ne rfl)

-- The rounds of a repetition: what is left falls in each round that is followed by another.
theorem run_many (hp : p.Advances) (c : Cursor) : (p.many.run c).Advances c := by
  have h := hp c
  rw [Parser.run_many]
  cases hr : p.run c with
  | ok v d =>
    rw [hr] at h
    dsimp only
    split
    · rename_i hmoved
      have := Cursor.left_lt_of_isPast hmoved
      exact ((run_many hp d).map (v :: ·)).of_reaches h
    · exact Cursor.Reaches.refl c
  | fail e d =>
    rw [hr] at h
    dsimp only
    split
    · exact h
    · exact Cursor.Reaches.refl c
termination_by c.left

theorem sepByOnto {separator : Parser β} (hp : p.Advances) (hs : separator.Advances)
    (c : Cursor) : (Parser.sepByOnto p separator [] c).Advances c := by
  have h := hs c
  rw [sepByOnto_nil]
  cases hr : separator.run c with
  | fail e d =>
    rw [hr] at h
    dsimp only
    split
    · exact h
    · exact Cursor.Reaches.refl c
  | ok w d =>
    rw [hr] at h
    have h' := hp d
    dsimp only
    cases hr' : p.run d with
    | ok v f =>
      rw [hr'] at h'
      have hcf : c.Reaches f := Cursor.Reaches.trans h h'
      dsimp only
      split
      · rename_i hmoved
        have := Cursor.left_lt_of_isPast hmoved
        exact ((sepByOnto hp hs f).map (v :: ·)).of_reaches hcf
      · exact Cursor.Reaches.refl c
    | fail e f =>
      rw [hr'] at h'
      dsimp only
      split
      · exact h'.of_reaches h
      · exact Cursor.Reaches.refl c
termination_by c.left

theorem sepBy {separator : Parser β} (hp : p.Advances) (hs : separator.Advances) :
    (p.sepBy separator).Advances := by
  intro c
  have h := hp c
  unfold Parser.sepBy
  dsimp only
  cases hr : p.run c with
  | ok v d =>
    rw [hr] at h
    dsimp only
    rw [sepByOnto_eq]
    exact ((sepByOnto hp hs d).map ([v].reverse ++ ·)).of_reaches h
  | fail e d =>
    rw [hr] at h
    dsimp only
    split
    · exact h
    · exact Cursor.Reaches.refl c

end Parser.Advances

/-- Every parser that the combinators make goes forward. -/
theorem compositional_advances : Compositional @Parser.Advances where
  pure := fun _ c => Cursor.Reaches.refl c
  one := .one
  satisfy := .satisfy
  text := .text
  newline := .newline
  endOfInput := .endOfInput
  bind := .bind
  attempt := .attempt
  ahead := .ahead
  optional := .optional
  choice := .choice
  many := fun hp => hp.run_many
  sepBy := .sepBy

end Corpus.Parse
