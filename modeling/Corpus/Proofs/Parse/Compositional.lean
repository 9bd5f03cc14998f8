import Corpus.Parse.Term

/-!
# What holds of every parser

A statement about *all* parsers that can be put together is proved once for each way of putting
parsers together. `Compositional P` is the list of these ways: `P` holds of the parsers that look
at the input themselves, and of whatever the combinators make of parsers that it holds of.

`Compositional.term` is the induction that every such statement needs, over terms nested to any
depth. Parsers that are written with the others (`many1`, `between`, `blanks` and so on) follow
from `Compositional` as well, so a new statement has these cases and no more.

Terms take their functions from short lists. `Parser.Made` is for statements that should not: it
holds of what the combinators make with any functions at all, and it is the least property that
passes through them (`Parser.Made.of_compositional`).
-/

set_option autoImplicit false

namespace Corpus.Parse

/-- `P` holds of the parsers that look at the input, and passes through all combinators. -/
structure Compositional (P : ∀ {α : Type}, Parser α → Prop) : Prop where
  pure : ∀ {α : Type} (value : α), P (Pure.pure value : Parser α)
  one : P Parser.one
  satisfy : ∀ (wanted : Wanted) (accepts : Char → Bool), P (Parser.satisfy wanted accepts)
  text : ∀ expected : String, P (Parser.text expected)
  newline : P Parser.newline
  endOfInput : P Parser.endOfInput
  bind : ∀ {α β : Type} {p : Parser α} {next : α → Parser β},
    P p → (∀ value, P (next value)) → P (p >>= next)
  attempt : ∀ {α : Type} {p : Parser α}, P p → P p.attempt
  ahead : ∀ {α : Type} {p : Parser α}, P p → P p.ahead
  optional : ∀ {α : Type} {p : Parser α}, P p → P p.optional
  choice : ∀ {α : Type} {ps : List (Parser α)}, (∀ p ∈ ps, P p) → P (Parser.choice ps)
  many : ∀ {α : Type} {p : Parser α}, P p → P p.many
  sepBy : ∀ {α β : Type} {p : Parser α} {separator : Parser β},
    P p → P separator → P (p.sepBy separator)

/-- To change the value is to go on with the changed value. -/
theorem Parser.map_eq_bind {α β : Type} (f : α → β) (p : Parser α) :
    f <$> p = p >>= fun value => Pure.pure (f value) :=
  rfl

namespace Compositional

variable {P : ∀ {α : Type}, Parser α → Prop} {α β γ : Type}

theorem map (h : Compositional @P) (f : α → β) {p : Parser α} (hp : P p) : P (f <$> p) := by
  rw [Parser.map_eq_bind]
  exact h.bind hp fun value => h.pure (f value)

theorem andThen (h : Compositional @P) {p : Parser α} {q : Parser β} (hp : P p) (hq : P q) :
    P (p.andThen q) :=
  h.bind hp fun _ => hq

theorem butThen (h : Compositional @P) {p : Parser α} {q : Parser β} (hp : P p) (hq : P q) :
    P (p.butThen q) :=
  h.bind hp fun value => h.bind hq fun _ => h.pure value

theorem between (h : Compositional @P) {opening : Parser α} {closing : Parser β} {p : Parser γ}
    (ho : P opening) (hc : P closing) (hp : P p) : P (Parser.between opening closing p) :=
  h.bind ho fun _ => h.bind hp fun value => h.bind hc fun _ => h.pure value

theorem many1 (h : Compositional @P) {p : Parser α} (hp : P p) : P p.many1 :=
  h.bind hp fun first => h.bind (h.many hp) fun more => h.pure (first :: more)

theorem char (h : Compositional @P) (x : Char) : P (Parser.char x) :=
  h.satisfy (.char x) (· == x)

theorem charIn (h : Compositional @P) (set : String) : P (Parser.charIn set) :=
  h.satisfy (.oneOf set) set.toList.contains

theorem charNotIn (h : Compositional @P) (set : String) : P (Parser.charNotIn set) :=
  h.satisfy (.noneOf set) (!set.toList.contains ·)

theorem blank (h : Compositional @P) : P Parser.blank :=
  h.satisfy (.named "whitespace") Text.isBlank

theorem blanks (h : Compositional @P) : P Parser.blanks :=
  h.map (fun _ => ()) (h.many h.blank)

theorem digits (h : Compositional @P) : P Parser.digits :=
  h.many1 (h.satisfy (.named "digit") Char.isDigit)

/-- The parser to go on with is made of the same parts, whatever the value. -/
theorem continuation (h : Compositional @P) (k : Continuation) (v : Value) : P (k.parser v) := by
  cases k with
  | again => exact h.map _ (h.text v.joined)
  | close => exact h.map Value.char (h.char (closing (v.joined.toList.headD ' ')))

mutual

/-- What passes through all combinators holds of every described parser. -/
theorem term (h : Compositional @P) : ∀ t : Term, P t.parser
  | .one => h.map _ h.one
  | .satisfy cls expected => h.map _ (h.satisfy (.named expected) cls.holds)
  | .char x => h.map _ (h.char x)
  | .charIn set => h.map _ (h.charIn set)
  | .charNotIn set => h.map _ (h.charNotIn set)
  | .text expected => h.map _ (h.text expected)
  | .newline => h.map _ h.newline
  | .blank => h.map _ h.blank
  | .blanks => h.map _ h.blanks
  | .digits => h.map _ h.digits
  | .endOfInput => h.map _ h.endOfInput
  | .pure value => h.pure value
  | .andThen first second => h.andThen (term h first) (term h second)
  | .butThen first second => h.butThen (term h first) (term h second)
  | .between opening closing p => h.between (term h opening) (term h closing) (term h p)
  | .attempt p => h.attempt (term h p)
  | .ahead p => h.ahead (term h p)
  | .optional p => h.map _ (h.optional (term h p))
  | .choice alternatives => h.choice (terms h alternatives)
  | .many p => h.map _ (h.many (term h p))
  | .many1 p => h.map _ (h.many1 (term h p))
  | .sepBy p separator => h.map _ (h.sepBy (term h p) (term h separator))
  | .map change p => h.map change.apply (term h p)
  | .bind next p => h.bind (term h p) (h.continuation next)

theorem terms (h : Compositional @P) : ∀ ts : List Term, ∀ p ∈ Term.parsers ts, P p
  | [] => by
    intro p hp
    cases hp
  | t :: ts => by
    intro p hp
    rcases List.mem_cons.1 hp with rfl | hp
    · exact term h t
    · exact terms h ts p hp

end

end Compositional

/-! ## What the combinators make -/

/-- The parser is made by the combinators, nested to any depth, of parsers that look at the input,
with any tests and any ways to go on with a value. -/
inductive Parser.Made : ∀ {α : Type}, Parser α → Prop where
  | pure {α : Type} (value : α) : Made (Pure.pure value : Parser α)
  | one : Made Parser.one
  | satisfy (wanted : Wanted) (accepts : Char → Bool) : Made (Parser.satisfy wanted accepts)
  | text (expected : String) : Made (Parser.text expected)
  | newline : Made Parser.newline
  | endOfInput : Made Parser.endOfInput
  | bind {α β : Type} {p : Parser α} {next : α → Parser β} (hp : Made p)
      (hnext : ∀ value, Made (next value)) : Made (p >>= next)
  | attempt {α : Type} {p : Parser α} (hp : Made p) : Made p.attempt
  | ahead {α : Type} {p : Parser α} (hp : Made p) : Made p.ahead
  | optional {α : Type} {p : Parser α} (hp : Made p) : Made p.optional
  | choice {α : Type} {ps : List (Parser α)} (hps : ∀ p ∈ ps, Made p) : Made (Parser.choice ps)
  | many {α : Type} {p : Parser α} (hp : Made p) : Made p.many
  | sepBy {α β : Type} {p : Parser α} {separator : Parser β} (hp : Made p)
      (hs : Made separator) : Made (p.sepBy separator)

theorem compositional_made : Compositional @Parser.Made where
  pure := .pure
  one := .one
  satisfy := .satisfy
  text := .text
  newline := .newline
  endOfInput := .endOfInput
  bind := .bind
  attempt := .attempt
  ahead := .ahead
  optional := .optional
  choice := .choice
  many := .many
  sepBy := .sepBy

/-- What passes through all combinators holds of whatever they make. -/
theorem Parser.Made.of_compositional {P : ∀ {α : Type}, Parser α → Prop} (h : Compositional @P)
    {α : Type} {p : Parser α} (made : p.Made) : P p := by
  induction made with
  | pure value => exact h.pure value
  | one => exact h.one
  | satisfy wanted accepts => exact h.satisfy wanted accepts
  | text expected => exact h.text expected
  | newline => exact h.newline
  | endOfInput => exact h.endOfInput
  | bind _ _ hp hnext => exact h.bind hp hnext
  | attempt _ hp => exact h.attempt hp
  | ahead _ hp => exact h.ahead hp
  | optional _ hp => exact h.optional hp
  | choice _ hps => exact h.choice hps
  | many _ hp => exact h.many hp
  | sepBy _ _ hp hs => exact h.sepBy hp hs

end Corpus.Parse
