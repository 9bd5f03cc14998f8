import Corpus.Window.Partition

/-!
# Training records

A record shows a model the beginning of a stretch of source and asks for all of it. One record is
made of each window: the header of the window is the input, the whole window the output, and the
instruction is the input under the label of its language.
-/

set_option autoImplicit false

namespace Corpus

/-- One example to train on. -/
structure Record where
  instruction : String
  input : String
  output : String
  deriving DecidableEq, Repr

/-- How the texts of a source are put together again: what instructions begin with, if anything,
and what stands between texts. -/
structure Rendering where
  label : String
  joiner : String
  deriving DecidableEq, Repr

namespace Rendering

def join (r : Rendering) (texts : List String) : String :=
  String.intercalate r.joiner texts

def instruction (r : Rendering) (input : String) : String :=
  if r.label.isEmpty then "" else r.label ++ ": " ++ input

/-- The record of a window of texts. -/
def record (r : Rendering) (texts : Array String) (w : Window) : Record :=
  let stretch := (texts.extract w.start w.stop).toList
  let input := r.join (stretch.take w.header)
  ⟨r.instruction input, input, r.join stretch⟩

/-- The records of a sequence of texts, one for each window. -/
def records {σ : Type} [RandomSource σ] (r : Rendering) (sizes : WindowSizes)
    (texts : List String) (s : σ) : Except Fault (List Record) := do
  let windows ← Window.partition sizes texts.length s
  pure (windows.map (r.record texts.toArray))

end Rendering

end Corpus
