import Corpus.Text.Words

/-!
# Segmenters

Comments and prose are cut into word-like pieces before they are put into windows. How they are
cut is a choice of the caller: a segmenter is any function from a text to pieces. The layers above
rely on nothing else, so a segmenter that loses or invents text makes a corpus that does the same;
one that is `Lossless` makes a corpus that keeps every character.
-/

set_option autoImplicit false

namespace Corpus.Text

/-- A way of cutting a text into pieces, given in order. -/
structure Segmenter where
  pieces : String → List String

namespace Segmenter

/-- The pieces of every text concatenate to that text. -/
def Lossless (s : Segmenter) : Prop :=
  ∀ text, ((s.pieces text).map String.toList).flatten = text.toList

/-- Cuts at word boundaries: runs of letters stay whole, and scripts written without blanks come
apart into one piece per ideograph. -/
def words : Segmenter :=
  ⟨fun text => (Text.words text.toList).map String.ofList⟩

end Segmenter

end Corpus.Text
