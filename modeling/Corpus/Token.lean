/-!
# Tokens

A token is a piece of a source file with the part that it plays there. Its text is a stretch of
the file, copied and never normalized.
-/

set_option autoImplicit false

namespace Corpus

inductive Category where
  | word
  | symbol
  /-- Free text: comments, natural language and some string literals. It is segmented before it
  is put into windows. -/
  | text
  | literal
  /-- A leading directive such as a `#!` line. It is no part of what is put into windows. -/
  | instruction
  deriving DecidableEq, Repr, Inhabited

namespace Category

def all : List Category :=
  [.word, .symbol, .text, .literal, .instruction]

def name : Category → String
  | .word => "word"
  | .symbol => "symbol"
  | .text => "text"
  | .literal => "literal"
  | .instruction => "instruction"

end Category

/-- A piece of a source file. -/
structure Token where
  category : Category
  text : String
  deriving DecidableEq, Repr, Inhabited

/-- The token of the given category whose text is the given characters. -/
def Token.ofChars (category : Category) (text : List Char) : Token :=
  ⟨category, String.ofList text⟩

end Corpus
