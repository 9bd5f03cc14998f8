import Corpus.Parse.Choice
import Corpus.Parse.Match
import Corpus.Text.Segmenter
import Corpus.Token

/-!
# Tokens of natural language

Prose is cut twice. First into runs, blank and solid by turns; then each solid run is segmented by
itself, so that no piece ever reaches across a blank. A blank run is one token and keeps its
characters: prose is put together again without a joiner.
-/

set_option autoImplicit false

namespace Corpus

open Corpus.Parse Corpus.Parse.Parser Corpus.Text

/-- A stretch of blanks, or of anything else. -/
inductive Run where
  | blank (text : List Char)
  | solid (text : List Char)
  deriving DecidableEq, Repr

namespace Run

/-- A run, as long as it gets. -/
def parser : Parser Run :=
  choice
    [.blank <$> many1 Parser.blank,
     .solid <$> many1 (satisfy (.named "non-whitespace") (!isBlank ·))]

/-- The runs of a text. Every character is in one of the two classes, so none is left over. -/
def ofText (text : String) : List Run :=
  match (many parser).runOn text with
  | .ok runs _ => runs
  | .fail _ _ => []

/-- The tokens of a run. Empty pieces are dropped. -/
def tokens (s : Segmenter) : Run → List Token
  | .blank text => [.ofChars .text text]
  | .solid text =>
    ((s.pieces (String.ofList text)).filter (!·.isEmpty)).map fun piece => ⟨.text, piece⟩

end Run

/-- The tokens of a text, blanks included. -/
def proseTokens (s : Segmenter) (text : String) : List Token :=
  (Run.ofText text).flatMap (Run.tokens s)

end Corpus
