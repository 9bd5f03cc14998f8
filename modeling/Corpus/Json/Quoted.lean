/-!
# JSON strings

A JSON string stands between quotation marks. The mark itself and the backslash are written with a
backslash before them, and so are the controls below the space: five of them by a letter, the
others by their code point. Every other character stands for itself.
-/

set_option autoImplicit false

namespace Corpus.Json

/-- A code point below 256 as four hexadecimal digits. -/
def fourDigits (n : Nat) : List Char :=
  ['0', '0', Nat.digitChar (n / 16), Nat.digitChar (n % 16)]

/-- One character as it is written inside a string. -/
def escape (c : Char) : List Char :=
  match c with
  | '"' => ['\\', '"']
  | '\\' => ['\\', '\\']
  | '\x08' => ['\\', 'b']
  | '\x0c' => ['\\', 'f']
  | '\n' => ['\\', 'n']
  | '\r' => ['\\', 'r']
  | '\t' => ['\\', 't']
  | _ => if c.toNat < 0x20 then '\\' :: 'u' :: fourDigits c.toNat else [c]

/-- A text as a JSON string. -/
def quoted (text : String) : List Char :=
  '"' :: text.toList.flatMap escape ++ ['"']

end Corpus.Json
