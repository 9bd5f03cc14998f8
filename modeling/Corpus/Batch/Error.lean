import Corpus.Disk.Access
import Corpus.Parse.Failure
import Corpus.Window.Sizes

/-!
# Errors of a run

What can go wrong with one file of a batch or with the whole. `CorpusError.message` is the wording
for a reader; `CorpusError.detail` names all parts and is what a failed program run ends with.
-/

set_option autoImplicit false

namespace Corpus

open Corpus.Parse Corpus.Text

/-- What went wrong. -/
inductive CorpusError where
  | read (path : Path) (cause : DiskError)
  | lex (path : Path) (cause : Failure)
  | noSources (roots : List Path)
  /-- The sizes of windows do not make sense. -/
  | sizes (cause : SizeError)
  | write (path : Path) (cause : DiskError)
  deriving DecidableEq, Repr

namespace CorpusError

/-- Paths as a quoted list. -/
def quotedPaths (paths : List Path) : String :=
  quotedList (paths.map Path.spelling)

def message : CorpusError → String
  | .read path cause => s!"failed to read {path.spelling}: {cause.message}"
  | .lex path cause => s!"failed to tokenize {path.spelling}: {cause.message}"
  | .noSources roots => s!"no source files found under {quotedPaths roots}"
  | .sizes cause => s!"invalid configuration: {cause.message}"
  | .write path cause => s!"failed to write {path.spelling}: {cause.message}"

/-- A failure to parse with all its parts. -/
def failureDetail (f : Failure) : String :=
  let kind := if f.isEndOfInput then "EndOfInput" else "Unexpected"
  s!"ParseError \x7b kind: {kind}, position: {f.offset}, message: {quoted f.cause.message} \x7d"

def detail : CorpusError → String
  | .read path cause => s!"Io \x7b path: {quoted path.spelling}, source: {cause.detail} \x7d"
  | .lex path cause =>
    s!"Parse \x7b path: {quoted path.spelling}, source: {failureDetail cause} \x7d"
  | .noSources roots => s!"NoSourceFiles \x7b roots: {quotedPaths roots} \x7d"
  | .sizes cause => s!"InvalidConfig({quoted cause.message})"
  | .write path cause => s!"Write \x7b path: {quoted path.spelling}, source: {cause.detail} \x7d"

end CorpusError

end Corpus
