import Corpus.Parse.Choice
import Corpus.Parse.Match
import Corpus.Token.Grammar

/-!
# Productions

One parser per kind of token, and `Grammar.token`, the choice among them: number, name, run of
symbols, line comment, block comment, character literal, string literal. The first that accepts
wins.

**Only a string literal commits.** The other productions are attempts: where one fails, the next
is tried from the same place. Once a string has been opened nothing else is tried, so an unclosed
string is the failure of the file and is not lexed as something else.

Every production yields the characters that it has read, in order, so a token can be laid back
over the file that it came from.
-/

set_option autoImplicit false

namespace Corpus

open Corpus.Parse Corpus.Parse.Parser

/-- The delimiter of a string literal. -/
def quote : String := "\""

/-- The delimiter of a string literal that may hold the plain delimiter. -/
def tripleQuote : String := "\"\"\""

/-- A backslash and the character after it. -/
def escaped : Parser (List Char) := do
  let _ ← char '\\'
  let c ← one
  pure ['\\', c]

/-! ## Comments -/

/-- Reads on through the first place where `closer` accepts, behind the characters already read,
which are given backwards. Running out of input ends the reading as well. `closer` is asked anew
at each character; what it does with the cursor when it fails does not matter. -/
def throughFrom (closer : Parser (List Char)) (seen : List Char) (c : Cursor) :
    Reply (List Char) :=
  match closer.run c with
  | .ok text d => .ok (seen.reverse ++ text) d
  | .fail e _ =>
    if e.isEndOfInput then .ok seen.reverse c
    else match _next : c.next? with
      | some (x, d) => throughFrom closer (x :: seen) d
      | none => .fail ⟨.endOfInput, c.offset⟩ c
termination_by c.left
decreasing_by exact Cursor.left_lt_of_next? _next

theorem throughFrom_eq (closer : Parser (List Char)) (seen : List Char) (c : Cursor) :
    throughFrom closer seen c = (throughFrom closer [] c).map (seen.reverse ++ ·) := by
  rw [throughFrom, throughFrom]
  split
  · simp
  · split
    · simp
    · split
      · rename_i x d next
        have := Cursor.left_lt_of_next? next
        rw [throughFrom_eq closer (x :: seen) d, throughFrom_eq closer [x] d]
        cases throughFrom closer [] d <;> simp
      · simp
termination_by c.left

/-- Reads on through the first place where `closer` accepts, or to the end of the input. -/
def through (closer : Parser (List Char)) : Parser (List Char) :=
  ⟨throughFrom closer []⟩

/-- A comment from its opener through its closer, or to the end of the input. The closer is looked
for behind the opener, so the two never overlap. -/
def comment (opener : String) (closer : Parser (List Char)) : Parser Token := do
  let opened ← text opener
  let body ← through closer
  pure (.ofChars .text (opened ++ body))

/-! ## String literals -/

/-- Reads the body of a string literal and its closing delimiter, behind the characters already
read, which are given backwards. The delimiter is looked for before each unit of the body; a unit
is a backslash with the character after it, or one character. -/
def stringRestFrom (delimiter : String) (opened : Nat) (seen : List Char) (c : Cursor) :
    Reply (List Char) :=
  match (text delimiter).run c with
  | .ok closer d => .ok (seen.reverse ++ closer) d
  | .fail _ _ =>
    match _first : c.next? with
    | none => .fail ⟨.unterminatedString opened, c.offset⟩ c
    | some (x, d) =>
      if x = '\\' then
        match _second : d.next? with
        | none => stringRestFrom delimiter opened (x :: seen) d
        | some (y, f) => stringRestFrom delimiter opened (y :: x :: seen) f
      else stringRestFrom delimiter opened (x :: seen) d
termination_by c.left
decreasing_by
  · exact Cursor.left_lt_of_next? _first
  · exact Nat.lt_trans (Cursor.left_lt_of_next? _second) (Cursor.left_lt_of_next? _first)
  · exact Cursor.left_lt_of_next? _first

theorem stringRestFrom_eq (delimiter : String) (opened : Nat) (seen : List Char) (c : Cursor) :
    stringRestFrom delimiter opened seen c =
      (stringRestFrom delimiter opened [] c).map (seen.reverse ++ ·) := by
  rw [stringRestFrom, stringRestFrom]
  split
  · simp
  · split
    · simp
    · rename_i x d first
      have := Cursor.left_lt_of_next? first
      split
      · split
        · rw [stringRestFrom_eq delimiter opened (x :: seen) d,
            stringRestFrom_eq delimiter opened [x] d]
          cases stringRestFrom delimiter opened [] d <;> simp
        · rename_i y f second
          have := Cursor.left_lt_of_next? second
          rw [stringRestFrom_eq delimiter opened (y :: x :: seen) f,
            stringRestFrom_eq delimiter opened [y, x] f]
          cases stringRestFrom delimiter opened [] f <;> simp
      · rw [stringRestFrom_eq delimiter opened (x :: seen) d,
          stringRestFrom_eq delimiter opened [x] d]
        cases stringRestFrom delimiter opened [] d <;> simp
termination_by c.left

/-- The rest of a string literal behind its opener. A failure tells where the opener began. -/
def stringRest (delimiter : String) (opener : List Char) : Parser (List Char) :=
  ⟨fun c => stringRestFrom delimiter (c.offset - byteCount opener) [] c⟩

/-! ## The productions of a grammar -/

namespace Grammar

def number (g : Grammar) : Parser Token :=
  .ofChars g.nameCategory <$> digits

/-- A name, as long as it gets. A name that prefixes a string literal is refused, because it
belongs to the string. -/
def name (g : Grammar) : Parser Token := do
  let chars ← many1 (satisfy (.named "name character") g.isNameChar)
  ⟨fun c =>
    if g.marksString chars && c.sees quote.toList then
      .fail ⟨.namesPrefix (String.ofList chars), c.offset⟩ c
    else .ok (.ofChars g.nameCategory chars) c⟩

/-- A character literal: one character other than a backslash, or a backslash and any character,
between single quotation marks. -/
def charLiteral (_ : Grammar) : Parser Token := do
  let body ← between (char '\'') (char '\'')
    (choice [escaped, (fun c => [c]) <$> charNotIn "\\"])
  pure (.ofChars .literal ('\'' :: body ++ ['\'']))

/-- Whatever ends a run of symbols. -/
def symbolEnd (g : Grammar) : Parser Unit :=
  choice (g.symbolEnds.map (fun opener => (fun _ => ()) <$> text opener) ++
    [(fun _ => ()) <$> attempt g.charLiteral,
     (fun _ => ()) <$> blank,
     (fun _ => ()) <$> satisfy (.named "name character") g.isNameChar])

/-- One character of a run of symbols: any that nothing else begins with. -/
def symbolChar (g : Grammar) : Parser Char :=
  ⟨fun c =>
    match (ahead g.symbolEnd).run c with
    | .ok _ d => .fail ⟨.symbolRunEnds, d.offset⟩ d
    | .fail _ d => one.run d⟩

/-- A run of symbols, as long as it gets. -/
def symbols (g : Grammar) : Parser Token :=
  .ofChars .symbol <$> many1 g.symbolChar

/-- What opens a string literal with the given delimiter: any characters that may stand before
it, then the delimiter. -/
def stringStart (g : Grammar) (delimiter : String) : Parser (List Char × String) :=
  attempt do
    let marks ← many (charIn g.stringMarks)
    let opening ← text delimiter
    pure (marks ++ opening, delimiter)

/-- A string literal. The longer delimiter is tried first. -/
def stringLiteral (g : Grammar) : Parser Token := do
  let (opener, delimiter) ← choice [g.stringStart tripleQuote, g.stringStart quote]
  let body ← stringRest delimiter opener
  pure (.ofChars g.stringCategory (opener ++ body))

/-- A `#!` line with something on it, and its line feed. -/
def directive (_ : Grammar) : Parser Token := do
  let line ← between (text "#!") (char '\n') (many1 (charNotIn "\n"))
  pure (.ofChars .instruction ('#' :: '!' :: line ++ ['\n']))

/-- The block comment, in a grammar that has one. -/
def blockComments (g : Grammar) : List (Parser Token) :=
  match g.blockComment? with
  | some (opener, closer) => [attempt (comment opener (text closer))]
  | none => []

def token (g : Grammar) : Parser Token :=
  choice
    ([attempt g.number, attempt g.name, attempt g.symbols,
      attempt (comment g.lineComment newline)]
      ++ g.blockComments
      ++ [attempt g.charLiteral, g.stringLiteral])

end Grammar

end Corpus
