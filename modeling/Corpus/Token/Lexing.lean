import Corpus.Token.Production

/-!
# Lexing a file

A file is a sequence of tokens with blanks between them, and before it, where the grammar has
such lines, one `#!` line. Where no token begins the lexing stops, which is not an error: the
tokens so far are the result, together with the cursor that tells what was left (`Lexed.stop`).
An unclosed string is the one thing that fails a file.
-/

set_option autoImplicit false

namespace Corpus

open Corpus.Parse Corpus.Parse.Parser

/-- The tokens of a file, and where the lexing stopped. -/
structure Lexed where
  tokens : List Token
  stop : Cursor
  deriving DecidableEq, Repr

namespace Grammar

/-- All tokens from the beginning of a file, with the blanks around them. -/
def file (g : Grammar) : Parser (List Token) := do
  let directive ← if g.hasDirective then optional (attempt g.directive) else pure none
  blanks
  let tokens ← sepBy g.token blanks
  blanks
  pure (directive.toList ++ tokens)

def lex (g : Grammar) (source : String) : Except Failure Lexed :=
  match g.file.runOn source with
  | .ok tokens c => .ok ⟨tokens, c⟩
  | .fail e _ => .error e

end Grammar

/-- The offset at which the lexing stopped and the number of bytes left, if it did not reach the
end. -/
def Lexed.unmatched? (l : Lexed) : Option (Nat × Nat) :=
  if l.stop.atEnd then none else some (l.stop.offset, l.stop.left)

end Corpus
