import Corpus.Random.Source

/-!
# A cycle of words

A random source for experiments that must come out in a known way: a list of words, given out in
order and from the beginning again when it is used up.
-/

set_option autoImplicit false

namespace Corpus.Random

/-- A list of words without end: the first round, and the words left of the round in hand. -/
structure Cycle where
  first : UInt32
  others : List UInt32
  left : List UInt32
  deriving DecidableEq, Repr

namespace Cycle

/-- The cycle of a list of words, if it has any. -/
def ofList? : List UInt32 → Option Cycle
  | [] => none
  | first :: others => some ⟨first, others, first :: others⟩

def word (s : Cycle) : UInt32 × Cycle :=
  match s.left with
  | x :: left => (x, { s with left })
  | [] => (s.first, { s with left := s.others })

instance : RandomSource Cycle where
  word := word

end Cycle

end Corpus.Random
