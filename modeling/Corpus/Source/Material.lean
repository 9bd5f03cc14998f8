import Corpus.Source.Kind
import Corpus.Source.Prose
import Corpus.Token.Lexing

/-!
# From a source to material for windows

`FileKind.tokens` gives the tokens of a source by its kind, and `FileKind.material` flattens
them into the texts that windows are cut from. In code, free text such as a comment comes apart
into segments and loses its blanks, because the joiner puts blanks back; a leading directive is
left out. The tokens of natural language are material as they are.
-/

set_option autoImplicit false

namespace Corpus

open Corpus.Parse Corpus.Text

/-- The tokens of a source, and where the lexing of code stopped short of the end, if it did: the
offset, and the number of bytes left. -/
structure Tokens where
  tokens : List Token
  unmatched? : Option (Nat × Nat)
  deriving DecidableEq, Repr

namespace FileKind

def tokens (kind : FileKind) (s : Segmenter) (source : String) : Except Failure Tokens :=
  match kind.grammar? with
  | some g => (g.lex source).map fun lexed => ⟨lexed.tokens, lexed.unmatched?⟩
  | none => .ok ⟨proseTokens s source, none⟩

/-- The texts that a token contributes. -/
def texts (kind : FileKind) (s : Segmenter) (t : Token) : List String :=
  match t.category with
  | .instruction => []
  | .text => if kind = .text then [t.text] else (s.pieces t.text).filter (!allBlank ·)
  | _ => [t.text]

/-- The texts that windows are cut from. -/
def material (kind : FileKind) (s : Segmenter) (tokens : List Token) : List String :=
  tokens.flatMap (kind.texts s)

end FileKind

end Corpus
