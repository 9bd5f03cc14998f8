import Corpus.Text.Concealed

/-!
# Quoted text

Messages show characters and texts between quotation marks, so that a reader sees where they
begin and end and what they hold. The backslash, the quotation mark in use, the common controls
and whatever cannot be seen (`isConcealed`) are written as escapes; all else stands for itself.
-/

set_option autoImplicit false

namespace Corpus.Text

/-- The escape of a character by its code point: `\u` and the lower-case hexadecimal digits in
braces. -/
def codePointEscape (c : Char) : List Char :=
  ['\\', 'u', '\x7b'] ++ Nat.toDigits 16 c.toNat ++ ['\x7d']

/-- One character as it is written between the given quotation marks. -/
def quoteChar (mark : Char) (c : Char) : List Char :=
  if c = mark then ['\\', c]
  else match c with
    | '\\' => ['\\', '\\']
    | '\n' => ['\\', 'n']
    | '\r' => ['\\', 'r']
    | '\t' => ['\\', 't']
    | '\x00' => ['\\', '0']
    | _ => if isConcealed c then codePointEscape c else [c]

/-- A character between single quotation marks. -/
def quotedChar (c : Char) : String :=
  String.ofList ('\'' :: quoteChar '\'' c ++ ['\''])

/-- A text between double quotation marks. -/
def quoted (text : String) : String :=
  String.ofList ('"' :: text.toList.flatMap (quoteChar '"') ++ ['"'])

/-- A list of texts: each quoted, between square brackets, with commas. -/
def quotedList (texts : List String) : String :=
  "[" ++ String.intercalate ", " (texts.map quoted) ++ "]"

end Corpus.Text
