import Corpus.Path
import Corpus.Token.Grammar

/-!
# Kinds of source files

The extension of a file says what is in it, and everything that differs from kind to kind follows
from there: how the file is lexed, how its records are labelled, and how tokens are put together
again.
-/

set_option autoImplicit false

namespace Corpus

/-- What a source file holds. -/
inductive FileKind where
  | c
  | java
  | scala
  | python
  /-- Natural language. -/
  | text
  deriving DecidableEq, Repr, Inhabited

namespace FileKind

/-- The kind of files with the given extension. Upper and lower case differ. -/
def ofExtension? : String → Option FileKind
  | "c" => some .c
  | "java" => some .java
  | "scala" => some .scala
  | "py" => some .python
  | "txt" => some .text
  | _ => none

def ofPath? (p : Path) : Option FileKind :=
  p.extension?.bind ofExtension?

def name : FileKind → String
  | .c => "c"
  | .java => "java"
  | .scala => "scala"
  | .python => "python"
  | .text => "text"

/-- What the instructions of its records begin with. Natural language gives no instructions. -/
def label : FileKind → String
  | .text => ""
  | kind => kind.name

/-- What is put between tokens. The tokens of natural language hold their blanks already. -/
def joiner : FileKind → String
  | .text => ""
  | _ => " "

def grammar? : FileKind → Option Grammar
  | .c | .java | .scala => some .cLike
  | .python => some .pythonLike
  | .text => none

end FileKind

end Corpus
