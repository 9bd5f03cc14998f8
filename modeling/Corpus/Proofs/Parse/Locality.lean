import Corpus.Proofs.Parse.Place
import Corpus.Proofs.Parse.Compositional

/-!
# Parsers see only what is ahead

The bytes behind a cursor are a number, and the number is only reported. So a text may be put before
another one, and whatever reads the second text does there what it does alone; **its offsets are
larger by the bytes put before, and nothing else changes**. `Parser.Local` says this of a parser, as
one equation between two runs (`Cursor.further`, `Reply.further`).

A cause can name an offset of its own, so how causes change is a parameter, `move`, which must leave
alone all causes that name none (`Cause.MovesPlaces`). All that the combinators make fails for such
causes only, so `id` is as good as any other `move` there, and with it the causes of the two runs
are the same.
-/

set_option autoImplicit false

namespace Corpus.Parse

variable {α β : Type}

/-! ## More text before -/

/-- The cursor with so many bytes more behind it. -/
def Cursor.further (n : Nat) (c : Cursor) : Cursor :=
  { c with offset := c.offset + n }

/-- The failure as it is told in a text with so many bytes more before. -/
def Failure.further (move : Cause → Cause) (n : Nat) (e : Failure) : Failure :=
  ⟨move e.cause, e.offset + n⟩

/-- The reply as it is given in a text with so many bytes more before: the same value or a failure
told differently, and a cursor with the same text ahead. -/
def Reply.further (move : Cause → Cause) (n : Nat) : Reply α → Reply α
  | .ok v c => .ok v (c.further n)
  | .fail e c => .fail (e.further move n) (c.further n)

/-- Whether a cause names an offset of the text. -/
def Cause.namesPlace : Cause → Bool
  | .unterminatedString _ => true
  | _ => false

/-- The cause as it is told in a text with so many bytes more before. -/
def Cause.further (n : Nat) : Cause → Cause
  | .unterminatedString opened => .unterminatedString (opened + n)
  | cause => cause

/-- A way to change causes that keeps their kind and does nothing to those that name no offset. -/
structure Cause.MovesPlaces (move : Nat → Cause → Cause) : Prop where
  placeless : ∀ n cause, cause.namesPlace = false → move n cause = cause
  kind : ∀ n cause, (move n cause).isEndOfInput = cause.isEndOfInput

theorem Cause.movesPlaces_id : Cause.MovesPlaces fun _ => id where
  placeless := fun _ _ _ => rfl
  kind := fun _ _ => rfl

theorem Cause.movesPlaces_further : Cause.MovesPlaces Cause.further where
  placeless := by
    intro n cause placeless
    cases cause with
    | unterminatedString opened => cases placeless
    | _ => rfl
  kind := by
    intro n cause
    cases cause <;> rfl

namespace Cursor

variable (n : Nat) (c d : Cursor)

theorem further_place (o : Nat) (r : List Char) : (place o r).further n = place (o + n) r := rfl

@[simp] theorem offset_further : (c.further n).offset = c.offset + n := rfl

@[simp] theorem rest_further : (c.further n).rest = c.rest := rfl

@[simp] theorem atEnd_further : (c.further n).atEnd = c.atEnd := rfl

@[simp] theorem sees_further (text : List Char) : (c.further n).sees text = c.sees text := rfl

@[simp] theorem isPast_further : (d.further n).isPast (c.further n) = d.isPast c := rfl

theorem next?_further :
    (c.further n).next? = c.next?.map fun (x, d) => (x, d.further n) := by
  obtain ⟨offset, rest, left, left_eq⟩ := c
  cases rest with
  | nil => rfl
  | cons x rest => simp [next?, further, Nat.add_right_comm]

theorem skip?_further (text : List Char) :
    (c.further n).skip? text = (c.skip? text).map (further n) := by
  induction text generalizing c with
  | nil => rfl
  | cons x text ih =>
    simp only [skip?, next?_further]
    cases c.next? with
    | none => rfl
    | some step =>
      obtain ⟨y, d⟩ := step
      simp only [Option.map_some]
      split
      · exact ih d
      · rfl

end Cursor

namespace Reply

variable (move : Cause → Cause) (n : Nat)

@[simp] theorem further_ok (v : α) (c : Cursor) :
    (Reply.ok v c).further move n = .ok v (c.further n) := rfl

@[simp] theorem further_fail (e : Failure) (c : Cursor) :
    (Reply.fail e c : Reply α).further move n = .fail (e.further move n) (c.further n) := rfl

@[simp] theorem further_map (f : α → β) (reply : Reply α) :
    (reply.map f).further move n = (reply.further move n).map f := by
  cases reply <;> rfl

end Reply

/-- Behind any text the parser does what it does without it. -/
def Parser.Local (move : Nat → Cause → Cause) (p : Parser α) : Prop :=
  ∀ n c, p.run (c.further n) = (p.run c).further (move n) n

namespace Parser.Local

variable {move : Nat → Cause → Cause} {p : Parser α}

/-! ## Parsers that look at the input -/

section

variable (hmove : Cause.MovesPlaces move)
include hmove

theorem one : Local move Parser.one := by
  intro n c
  simp only [Parser.one, Cursor.next?_further]
  cases c.next? with
  | none => simp [Failure.further, hmove.placeless n .endOfInput rfl]
  | some step => rfl

theorem satisfy (wanted : Wanted) (accepts : Char → Bool) :
    Local move (Parser.satisfy wanted accepts) := by
  intro n c
  simp only [Parser.satisfy, Cursor.next?_further]
  cases c.next? with
  | none => simp [Failure.further, hmove.placeless n .endOfInput rfl]
  | some step =>
    obtain ⟨x, d⟩ := step
    simp only [Option.map_some]
    split
    · rfl
    · simp [Failure.further, hmove.placeless n (.mismatch wanted x) rfl]

/-- What fails in place fails there behind any text. -/
theorem fail_at_end_or {cause : Cause} (hcause : cause.namesPlace = false) (n : Nat) (c : Cursor) :
    (if (c.further n).atEnd then .fail ⟨.endOfInput, (c.further n).offset⟩ (c.further n)
      else .fail ⟨cause, (c.further n).offset⟩ (c.further n) : Reply α) =
    (if c.atEnd then .fail ⟨.endOfInput, c.offset⟩ c
      else .fail ⟨cause, c.offset⟩ c : Reply α).further (move n) n := by
  rw [Cursor.atEnd_further]
  split
  · simp [Failure.further, hmove.placeless n .endOfInput rfl]
  · simp [Failure.further, hmove.placeless n cause hcause]

theorem text (expected : String) : Local move (Parser.text expected) := by
  intro n c
  simp only [Parser.text, Cursor.skip?_further]
  cases c.skip? expected.toList with
  | none => exact fail_at_end_or hmove rfl n c
  | some d => rfl

theorem newline : Local move Parser.newline := by
  intro n c
  simp only [Parser.newline, Cursor.skip?_further]
  cases c.skip? ['\r', '\n'] with
  | some d => rfl
  | none =>
    cases c.skip? ['\n'] with
    | some d => rfl
    | none => exact fail_at_end_or hmove rfl n c

theorem endOfInput : Local move Parser.endOfInput := by
  intro n c
  by_cases h : c.atEnd = true
  · simp [Parser.endOfInput, h]
  · simp [Parser.endOfInput, h, Failure.further, hmove.placeless n .notEnd rfl]

end

/-! ## Combinators -/

theorem pure (value : α) : Local move (Pure.pure value : Parser α) :=
  fun _ _ => rfl

/-- The second parser need be local only where the first one can leave it. -/
theorem bind_of_run {next : α → Parser β} (hp : p.Local move)
    (hnext : ∀ n c v d, p.run c = .ok v d →
      (next v).run (d.further n) = ((next v).run d).further (move n) n) :
    (p >>= next).Local move := by
  intro n c
  rw [run_bind, run_bind, hp]
  cases hr : p.run c with
  | ok v d => exact hnext n c v d hr
  | fail e d => rfl

theorem bind {next : α → Parser β} (hp : p.Local move) (hnext : ∀ value, (next value).Local move) :
    (p >>= next).Local move :=
  hp.bind_of_run fun n _ v d _ => hnext v n d

theorem attempt (hp : p.Local move) : p.attempt.Local move := by
  intro n c
  simp only [Parser.attempt, hp n c]
  cases p.run c <;> rfl

theorem ahead (hp : p.Local move) : p.ahead.Local move := by
  intro n c
  simp only [Parser.ahead, hp n c]
  cases p.run c <;> rfl

theorem optional (hp : p.Local move) : p.optional.Local move := by
  intro n c
  simp only [Parser.optional, hp n c]
  cases p.run c with
  | ok v d => rfl
  | fail e d => by_cases hmoved : d.isPast c = true <;> simp [hmoved]

theorem choiceOr {ps : List (Parser α)} (hps : ∀ p ∈ ps, p.Local move) (e : Failure) (n : Nat)
    (c : Cursor) :
    Parser.choiceOr (e.further (move n) n) ps (c.further n) =
      (Parser.choiceOr e ps c).further (move n) n := by
  induction ps generalizing e with
  | nil => rfl
  | cons p ps ih =>
    have htail : ∀ q ∈ ps, q.Local move := fun q hq => hps q (List.mem_cons_of_mem p hq)
    simp only [Parser.choiceOr, hps p List.mem_cons_self n c]
    cases p.run c with
    | ok v d => rfl
    | fail e' d =>
      by_cases hmoved : d.isPast c = true
      · simp [hmoved]
      · simpa [hmoved] using ih htail e'

theorem choice (hmove : Cause.MovesPlaces move) {ps : List (Parser α)}
    (hps : ∀ p ∈ ps, p.Local move) : (Parser.choice ps).Local move := by
  intro n c
  have none_yet : (⟨.noAlternative, c.offset⟩ : Failure).further (move n) n =
      ⟨.noAlternative, (c.further n).offset⟩ := by
    rw [Failure.further, hmove.placeless n .noAlternative rfl, Cursor.offset_further]
  have tried := choiceOr hps ⟨.noAlternative, c.offset⟩ n c
  rwa [none_yet] at tried

-- Both runs go round by round: where one moves, and goes on, so does the other.
theorem run_many (hp : p.Local move) (n : Nat) (c : Cursor) :
    p.many.run (c.further n) = (p.many.run c).further (move n) n := by
  rw [Parser.run_many, Parser.run_many p c, hp]
  cases p.run c with
  | ok v d =>
    by_cases hmoved : d.isPast c = true
    · have := Cursor.left_lt_of_isPast hmoved
      simp [hmoved, run_many hp n d]
    · simp [hmoved]
  | fail e d => by_cases hmoved : d.isPast c = true <;> simp [hmoved]
termination_by c.left

theorem sepByOnto {separator : Parser β} (hp : p.Local move) (hs : separator.Local move) (n : Nat)
    (c : Cursor) :
    Parser.sepByOnto p separator [] (c.further n) =
      (Parser.sepByOnto p separator [] c).further (move n) n := by
  rw [sepByOnto_nil, sepByOnto_nil p separator c, hs]
  cases separator.run c with
  | fail e d => by_cases hmoved : d.isPast c = true <;> simp [hmoved]
  | ok w d =>
    simp only [Reply.further_ok, hp n d]
    cases p.run d with
    | ok v f =>
      by_cases hmoved : f.isPast c = true
      · have := Cursor.left_lt_of_isPast hmoved
        simp [hmoved, sepByOnto hp hs n f]
      · simp [hmoved]
    | fail e f => by_cases hmoved : f.isPast d = true <;> simp [hmoved]
termination_by c.left

theorem sepBy {separator : Parser β} (hp : p.Local move) (hs : separator.Local move) :
    (p.sepBy separator).Local move := by
  intro n c
  simp only [Parser.sepBy, hp n c]
  cases p.run c with
  | ok v d =>
    simp only [Reply.further_ok]
    rw [sepByOnto_eq, sepByOnto_eq p separator [v] d, sepByOnto hp hs, Reply.further_map]
  | fail e d => by_cases hmoved : d.isPast c = true <;> simp [hmoved]

end Parser.Local

/-- Every parser that the combinators make is local. -/
theorem compositional_local {move : Nat → Cause → Cause} (hmove : Cause.MovesPlaces move) :
    Compositional (Parser.Local move) where
  pure := .pure
  one := .one hmove
  satisfy := .satisfy hmove
  text := .text hmove
  newline := .newline hmove
  endOfInput := .endOfInput hmove
  bind := .bind
  attempt := .attempt
  ahead := .ahead
  optional := .optional
  choice := .choice hmove
  many := fun hp => hp.run_many
  sepBy := .sepBy

end Corpus.Parse
