import Corpus.Random.Source
import Corpus.Window.Sizes

/-!
# Cutting a sequence into windows

Windows are cut from the front, each of a random size and with a random header, until nothing is
left; the last one takes what there is. Every cut is one round.

With valid sizes a window is never empty, so there are at most as many rounds as there are texts.
Sizes that allow empty windows give no such bound, and on some streams there is no end at all.
`partitionWithin` therefore takes the number of rounds that it may use and has an outcome for
running out of them; `roundLimit` is enough for all valid sizes, and beyond all patience for the
others.
-/

set_option autoImplicit false

namespace Corpus

/-- The stretch of a sequence from `start` on and before `stop`. Its first `header` texts are its
header. -/
structure Window where
  start : Nat
  stop : Nat
  header : Nat
  deriving DecidableEq, Repr

namespace Window

def size (w : Window) : Nat :=
  w.stop - w.start

def isEmpty (w : Window) : Bool :=
  w.start == w.stop

variable {σ : Type} [RandomSource σ]

def draw (r : SizeRange) (s : σ) : Except Fault (Nat × σ) :=
  Random.between r.least r.bound s

/-- Cuts one window from a sequence of `len` texts: draws its size, then its header. Neither
reaches beyond what there is. -/
def cut (sizes : WindowSizes) (len start : Nat) (s : σ) : Except Fault (Window × σ) := do
  let (size, s) ← draw sizes.window s
  let stop := min (start + size) len
  let (header, s) ← draw sizes.header s
  pure (⟨start, stop, min header (stop - start)⟩, s)

/-- Cuts what is left of a sequence, from `start` on, in at most the given number of rounds. -/
def partitionWithin (sizes : WindowSizes) (len : Nat) :
    Nat → Nat → σ → Except Fault (List Window)
  | rounds, start, s =>
    if start < len then
      match rounds with
      | 0 => .error .endless
      | rounds + 1 => do
        let (w, s) ← cut sizes len start s
        let windows ← partitionWithin sizes len rounds w.stop s
        pure (w :: windows)
    else .ok []

/-- The number of rounds allowed for a sequence of `len` texts. -/
def roundLimit (sizes : WindowSizes) (len : Nat) : Nat :=
  if sizes.window.least = 0 then len * UInt32.size else len

/-- The windows of a sequence of `len` texts, in order. -/
def partition (sizes : WindowSizes) (len : Nat) (s : σ) : Except Fault (List Window) :=
  partitionWithin sizes len (roundLimit sizes len) 0 s

end Window

end Corpus
