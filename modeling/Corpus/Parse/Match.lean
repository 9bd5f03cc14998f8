import Corpus.Parse.Repeat
import Corpus.Text.Blank

/-!
# Matching characters and texts

The parsers that look at the input themselves. Each of them decides at the cursor and **moves only
when it accepts**, so none needs `attempt` around it. At the end of the input they fail with
`endOfInput`, except that the empty text comes next everywhere and the end of the input is itself
something to ask for.
-/

set_option autoImplicit false

namespace Corpus.Parse.Parser

open Corpus.Text

def one : Parser Char :=
  ⟨fun c =>
    match c.next? with
    | some (x, d) => .ok x d
    | none => .fail ⟨.endOfInput, c.offset⟩ c⟩

/-- A character that the test accepts; `wanted` describes the test. -/
def satisfy (wanted : Wanted) (accepts : Char → Bool) : Parser Char :=
  ⟨fun c =>
    match c.next? with
    | some (x, d) =>
      if accepts x then .ok x d else .fail ⟨.mismatch wanted x, c.offset⟩ c
    | none => .fail ⟨.endOfInput, c.offset⟩ c⟩

def char (x : Char) : Parser Char :=
  satisfy (.char x) (· == x)

def charIn (set : String) : Parser Char :=
  satisfy (.oneOf set) set.toList.contains

def charNotIn (set : String) : Parser Char :=
  satisfy (.noneOf set) (!set.toList.contains ·)

/-- The given text, all of it or nothing. -/
def text (expected : String) : Parser (List Char) :=
  ⟨fun c =>
    match c.skip? expected.toList with
    | some d => .ok expected.toList d
    | none =>
      if c.atEnd then .fail ⟨.endOfInput, c.offset⟩ c
      else .fail ⟨.notText expected, c.offset⟩ c⟩

/-- A line end: a line feed, with or without a carriage return before it. -/
def newline : Parser (List Char) :=
  ⟨fun c =>
    match c.skip? ['\r', '\n'] with
    | some d => .ok ['\r', '\n'] d
    | none =>
      match c.skip? ['\n'] with
      | some d => .ok ['\n'] d
      | none =>
        if c.atEnd then .fail ⟨.endOfInput, c.offset⟩ c
        else .fail ⟨.notNewline, c.offset⟩ c⟩

def blank : Parser Char :=
  satisfy (.named "whitespace") isBlank

def blanks : Parser Unit :=
  (fun _ => ()) <$> many blank

def digits : Parser (List Char) :=
  many1 (satisfy (.named "digit") Char.isDigit)

def endOfInput : Parser Unit :=
  ⟨fun c => if c.atEnd then .ok () c else .fail ⟨.notEnd, c.offset⟩ c⟩

end Corpus.Parse.Parser
