import Corpus.Text.Quoted

/-!
# Failures

A parser that does not accept says why and where. The reason is a `Cause`, one constructor for
each thing that can go wrong; its wording is in one place, `Cause.message`. The end of the input
is a cause of its own, because some callers take it as a natural end where any other cause would
be an error.
-/

set_option autoImplicit false

namespace Corpus.Parse

open Corpus.Text

/-- What a one-character parser asks for. -/
inductive Wanted where
  /-- A class of characters, by its name. -/
  | named (name : String)
  | char (c : Char)
  | oneOf (set : String)
  | noneOf (set : String)
  deriving DecidableEq, Repr

def Wanted.describe : Wanted → String
  | .named name => name
  | .char c => quotedChar c
  | .oneOf set => "one of " ++ quoted set
  | .noneOf set => "none of " ++ quoted set

/-- Why a parser did not accept. -/
inductive Cause where
  /-- There was nothing left to read. -/
  | endOfInput
  /-- Another character than the one asked for. -/
  | mismatch (wanted : Wanted) (found : Char)
  | notText (text : String)
  | notNewline
  | notEnd
  /-- A choice among nothing. -/
  | noAlternative
  /-- A name that stands directly before a quotation mark and prefixes the string there. -/
  | namesPrefix (name : String)
  /-- Something comes next that is no part of a run of symbols. -/
  | symbolRunEnds
  /-- A string literal, begun at the given offset, is not closed. -/
  | unterminatedString (opened : Nat)
  /-- A cause in the caller's own words. -/
  | other (message : String)
  deriving DecidableEq, Repr

namespace Cause

def message : Cause → String
  | .endOfInput => "unexpected end of input"
  | .mismatch wanted found => s!"expected {wanted.describe}, found {quotedChar found}"
  | .notText text => s!"expected {quoted text}"
  | .notNewline => "expected newline"
  | .notEnd => "expected end of input"
  | .noAlternative => "no alternative matched"
  | .namesPrefix name => s!"{quoted name} prefixes a string literal"
  | .symbolRunEnds => "symbol run ends here"
  | .unterminatedString opened => s!"unterminated string literal opened at offset {opened}"
  | .other message => message

/-- Whether the input ran out, as opposed to being something else than was asked for. -/
def isEndOfInput (c : Cause) : Bool :=
  c == .endOfInput

end Cause

/-- A cause, and the offset at which it arose. -/
structure Failure where
  cause : Cause
  offset : Nat
  deriving DecidableEq, Repr

namespace Failure

def isEndOfInput (f : Failure) : Bool :=
  f.cause.isEndOfInput

/-- The wording of a failure: its cause, and where it arose. -/
def message (f : Failure) : String :=
  s!"{f.cause.message} (offset {f.offset})"

end Failure

end Corpus.Parse
