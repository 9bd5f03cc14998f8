import Corpus.Parse.Term

/-!
# Sessions

A session is a text being read step by step, by hand or by described parsers. The cursor stays
inside the text and between characters whatever is done: it moves forward by reading, and back
only to a place that it could have been at.
-/

set_option autoImplicit false

namespace Corpus.Parse

open Corpus.Text

/-- A text, and a cursor in it. -/
structure Session where
  source : List Char
  cursor : Cursor

/-- One thing to do in a session. -/
inductive Action where
  | next
  | peek
  | offset
  | rest
  | atEnd
  | rewind (offset : Nat)
  /-- Make a failure here, in the given words. -/
  | complain (message : String)
  /-- Make the failure of having run out of input here. -/
  | complainAtEnd
  /-- Run a described parser. -/
  | parse (term : Term)
  /-- Run a described parser on another text. -/
  | parseOther (term : Term) (source : String)

inductive Answer where
  | char (c : Option Char)
  | offset (n : Nat)
  | rest (text : List Char)
  | flag (b : Bool)
  | done
  | value (v : Value)
  | failure (f : Failure)

namespace Answer

def ofReply : Reply Value → Answer
  | .ok v _ => .value v
  | .fail f _ => .failure f

end Answer

namespace Session

/-- A text at its beginning. -/
def start (source : String) : Session :=
  ⟨source.toList, .start source.toList⟩

/-- The place at an offset, if a character ends there and it is not ahead of the cursor. -/
def earlier? (s : Session) (offset : Nat) : Option Cursor :=
  if offset ≤ s.cursor.offset then (Cursor.start s.source).forward? offset else none

/-- Does one thing, and gives the answer with the session afterwards. -/
def perform (s : Session) : Action → Answer × Session
  | .next =>
    match Parser.one.run s.cursor with
    | .ok c d => (.char c, { s with cursor := d })
    | .fail f d => (.failure f, { s with cursor := d })
  | .peek => (.char s.cursor.peek?, s)
  | .offset => (.offset s.cursor.offset, s)
  | .rest => (.rest s.cursor.rest, s)
  | .atEnd => (.flag s.cursor.atEnd, s)
  | .rewind offset => (.done, { s with cursor := (s.earlier? offset).getD s.cursor })
  | .complain message => (.failure ⟨.other message, s.cursor.offset⟩, s)
  | .complainAtEnd => (.failure ⟨.endOfInput, s.cursor.offset⟩, s)
  | .parse term =>
    let reply := term.parser.run s.cursor
    (.ofReply reply, { s with cursor := reply.cursor })
  | .parseOther term source => (.ofReply (term.parser.runOn source), s)

/-- Does one thing after another, and gives each answer with the session after it. -/
def performAll (s : Session) : List Action → List (Answer × Session)
  | [] => []
  | a :: actions =>
    let done := s.perform a
    done :: done.2.performAll actions

end Session

end Corpus.Parse
