import Corpus.Token
import Corpus.Text.Class

/-!
# Grammars

Languages of one family share their kinds of token and differ in a few characters and
delimiters. A `Grammar` holds just these. The two tables below serve every language that is known
here; what the fields mean is said by the productions (`Token/Production.lean`).
-/

set_option autoImplicit false

namespace Corpus

open Corpus.Text

/-- The lexical table of a family of languages. -/
structure Grammar where
  /-- The characters of names, besides letters and numbers. -/
  nameMarks : String
  /-- What opens a comment that ends with its line. -/
  lineComment : String
  /-- What opens and what closes a comment of any length, if there are such comments. -/
  blockComment? : Option (String × String)
  /-- The characters that may stand directly before a string literal and belong to it. -/
  stringMarks : String
  /-- Whether a `#!` line at the very beginning is a token of its own. -/
  hasDirective : Bool
  /-- What ends a run of symbols, besides blanks, names and character literals. -/
  symbolEnds : List String
  /-- The category of names and numbers. -/
  nameCategory : Category
  /-- The category of string literals. -/
  stringCategory : Category
  deriving DecidableEq, Repr

namespace Grammar

/-- C and the languages that look like it. -/
def cLike : Grammar where
  nameMarks := "_.#"
  lineComment := "//"
  blockComment? := some ("/*", "*/")
  stringMarks := ""
  hasDirective := false
  symbolEnds := ["\"", "//", "/*"]
  nameCategory := .word
  stringCategory := .literal

/-- Python. Its names count as symbols, and its strings as text: they often are documentation. -/
def pythonLike : Grammar where
  nameMarks := "_.@"
  lineComment := "#"
  blockComment? := none
  stringMarks := "rf"
  hasDirective := true
  symbolEnds := ["\"", "#"]
  nameCategory := .symbol
  stringCategory := .text

/-- Whether a character may stand in a name. -/
def isNameChar (g : Grammar) (c : Char) : Bool :=
  isAlphanumeric c || g.nameMarks.toList.contains c

/-- Whether a name could as well be what stands before a string literal and belongs to it. -/
def marksString (g : Grammar) (name : List Char) : Bool :=
  !g.stringMarks.isEmpty && name.all g.stringMarks.toList.contains

end Grammar

end Corpus
