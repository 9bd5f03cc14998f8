/-!
# Random words and draws from a range

Windows have random sizes. Where the randomness comes from is left open: a `RandomSource` is any
state that gives one 32-bit word after another, so whatever is proved of draws holds of every
stream of words.

**A draw is a scaled word.** A word `x`, one of `n`, stands for the fraction `x / n`; multiplied by
the size of the range and rounded down it gives a number below that size. The rounding favours
some numbers a little. Where the part rounded away is so large that more bits of the fraction could
carry into the result, a second word supplies those bits and the carry is added. So every draw
costs one word or two.
-/

set_option autoImplicit false

namespace Corpus

/-- A state that gives random words. -/
class RandomSource (σ : Type) where
  /-- The next word, and the state after it. -/
  word : σ → UInt32 × σ

/-- Why there is no result where there should be one. Valid sizes keep clear of both. -/
inductive Fault where
  | emptyRange
  | endless
  deriving DecidableEq, Repr

def Fault.message : Fault → String
  | .emptyRange => "cannot sample empty range"
  | .endless => "no end in sight"

namespace Random

variable {σ : Type} [RandomSource σ]

/-- The width of the words that a draw scales. -/
inductive Width where
  | narrow
  | wide
  deriving DecidableEq, Repr

/-- The number of words of a width, which have 32 or 64 bits. -/
def Width.words : Width → Nat
  | .narrow => UInt32.size
  | .wide => UInt64.size

/-- The next word of the given width. A wide one is two words, the low half first. -/
def next (w : Width) (s : σ) : Nat × σ :=
  let (low, s) := RandomSource.word s
  match w with
  | .narrow => (low.toNat, s)
  | .wide =>
    let (high, s) := RandomSource.word s
    (high.toNat * UInt32.size + low.toNat, s)

/-- A number below `range`, which is not zero and not above the number of words. -/
def scaled (w : Width) (range : Nat) (s : σ) : Nat × σ :=
  let (x, s) := next w s
  let result := x * range / w.words
  let lost := x * range % w.words
  if w.words - range < lost then
    let (y, s) := next w s
    if w.words ≤ lost + y * range / w.words then (result + 1, s) else (result, s)
  else (result, s)

/-- The narrowest width that holds the bound of a range. -/
def Width.ofBound (bound : Nat) : Width :=
  if bound < UInt32.size then .narrow else .wide

/-- A number from `least` on and below `bound`. -/
def between (least bound : Nat) (s : σ) : Except Fault (Nat × σ) :=
  if least < bound then
    let (n, s) := scaled (.ofBound bound) (bound - least) s
    .ok (least + n, s)
  else .error .emptyRange

end Random

end Corpus
