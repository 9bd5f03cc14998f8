import Corpus.Text.Alphabetic
import Corpus.Text.Blank
import Corpus.Text.Numeric

/-!
# Classes of characters

The classes that a parser can be asked for by name. The tables behind them are modules of their
own; this one only puts them side by side.
-/

set_option autoImplicit false

namespace Corpus.Text

/-- Whether the character is a letter or a number of any kind. -/
def isAlphanumeric (c : Char) : Bool :=
  isAlphabetic c || isNumeric c

inductive CharClass where
  | alphabetic
  | numeric
  | alphanumeric
  | blank
  | ascii
  | any
  deriving DecidableEq, Repr

def CharClass.holds : CharClass → Char → Bool
  | .alphabetic => isAlphabetic
  | .numeric => isNumeric
  | .alphanumeric => isAlphanumeric
  | .blank => isBlank
  | .ascii => fun c => c.toNat < 0x80
  | .any => fun _ => true

end Corpus.Text
