import Corpus.Parse.Parser

/-!
# Choice and going back

**A parser that has moved has decided.** `choice` goes on to the next alternative only where the
last one failed without moving; a failure further on is the failure of the whole choice. This
keeps messages exact, since they point into the alternative that had begun to match, and it keeps
reading cheap, since no input is read twice without need.

`attempt` opts out: it hides how far a failing parser had got, so that a choice can go on.
`ahead` looks without moving at all.
-/

set_option autoImplicit false

namespace Corpus.Parse.Parser

variable {α β : Type}

/-- On failure, stands where it began. -/
def attempt (p : Parser α) : Parser α :=
  ⟨fun c =>
    match p.run c with
    | .ok v d => .ok v d
    | .fail e _ => .fail e c⟩

/-- Looks for a value and stands where it began, whatever the answer. -/
def ahead (p : Parser α) : Parser α :=
  ⟨fun c =>
    match p.run c with
    | .ok v _ => .ok v c
    | .fail e _ => .fail e c⟩

/-- Tries the alternatives in order. If none accepts and none moves, the failure of the last one
stands; with no alternative left, the failure so far. -/
def choiceOr (failure : Failure) : List (Parser α) → Cursor → Reply α
  | [], c => .fail failure c
  | p :: alternatives, c =>
    match p.run c with
    | .ok v d => .ok v d
    | .fail e d => if d.isPast c then .fail e d else choiceOr e alternatives c

/-- The first alternative that accepts or moves. -/
def choice (alternatives : List (Parser α)) : Parser α :=
  ⟨fun c => choiceOr ⟨.noAlternative, c.offset⟩ alternatives c⟩

/-- The value if there is one, and nothing if the parser fails without moving. -/
def optional (p : Parser α) : Parser (Option α) :=
  ⟨fun c =>
    match p.run c with
    | .ok v d => .ok (some v) d
    | .fail e d => if d.isPast c then .fail e d else .ok none c⟩

end Corpus.Parse.Parser
