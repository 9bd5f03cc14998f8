import Corpus.Parse.Choice
import Corpus.Parse.Match
import Corpus.Text.Class

/-!
# Parsers as data

A `Term` describes a parser. It can be read from a file, printed and compared, and statements
about *every* parser that can be put together are proved by induction on it. `Term.parser` is the
parser that a term describes; the values of such parsers are of one type, `Value`, so that terms
fit together without further types.

Functions cannot be data, so `Term.map` and `Term.bind` take theirs from short lists: `Change` and
`Continuation`.
-/

set_option autoImplicit false

namespace Corpus.Parse

open Corpus.Text

/-- What a described parser yields. -/
inductive Value where
  | nothing
  | flag (b : Bool)
  | number (n : Int)
  | text (s : String)
  | list (values : List Value)
  | table (fields : List (String × Value))
  deriving Inhabited

namespace Value

/-- A character is a text of one. -/
def char (c : Char) : Value :=
  .text (String.singleton c)

mutual

/-- All text inside a value, joined in order: a text is its own, a list has that of its members,
anything else has none. -/
def joined : Value → String
  | .text s => s
  | .list values => joinedAll values
  | _ => ""

def joinedAll : List Value → String
  | [] => ""
  | v :: values => joined v ++ joinedAll values

end

def count : Value → Nat
  | .list values => values.length
  | _ => 0

end Value

inductive Change where
  /-- To all text inside it. -/
  | concat
  /-- To the length of the list that it is. -/
  | count
  /-- To the list of this one value. -/
  | wrap
  deriving DecidableEq, Repr

def Change.apply : Change → Value → Value
  | .concat, v => .text v.joined
  | .count, v => .number v.count
  | .wrap, v => .list [v]

/-- The bracket that closes the given one. Any other character closes itself. -/
def closing : Char → Char
  | '(' => ')'
  | '[' => ']'
  | '{' => '}'
  | '<' => '>'
  | c => c

/-- How to go on with a value. -/
inductive Continuation where
  /-- With the same text once more. -/
  | again
  /-- With the character that closes the first one of its text; with a blank if it has none. -/
  | close
  deriving DecidableEq, Repr

/-- The parser to go on with. -/
def Continuation.parser (k : Continuation) (v : Value) : Parser Value :=
  match k with
  | .again => (fun s => .text (String.ofList s)) <$> Parser.text v.joined
  | .close => Value.char <$> Parser.char (closing (v.joined.toList.headD ' '))

/-- A described parser. -/
inductive Term where
  | one
  | satisfy (cls : CharClass) (expected : String)
  | char (c : Char)
  | charIn (set : String)
  | charNotIn (set : String)
  | text (expected : String)
  | newline
  | blank
  | blanks
  | digits
  | endOfInput
  | pure (value : Value)
  | andThen (first second : Term)
  | butThen (first second : Term)
  | between (opening closing of : Term)
  | attempt (of : Term)
  | ahead (of : Term)
  | optional (of : Term)
  | choice (alternatives : List Term)
  | many (of : Term)
  | many1 (of : Term)
  | sepBy (of separator : Term)
  | map (change : Change) (of : Term)
  | bind (next : Continuation) (of : Term)
  deriving Inhabited

namespace Term

mutual

/-- The parser that a term describes. -/
def parser : Term → Parser Value
  | .one => Value.char <$> Parser.one
  | .satisfy cls expected => Value.char <$> Parser.satisfy (.named expected) cls.holds
  | .char c => Value.char <$> Parser.char c
  | .charIn set => Value.char <$> Parser.charIn set
  | .charNotIn set => Value.char <$> Parser.charNotIn set
  | .text expected => (fun s => .text (String.ofList s)) <$> Parser.text expected
  | .newline => (fun s => .text (String.ofList s)) <$> Parser.newline
  | .blank => Value.char <$> Parser.blank
  | .blanks => (fun _ => .nothing) <$> Parser.blanks
  | .digits => (fun s => .text (String.ofList s)) <$> Parser.digits
  | .endOfInput => (fun _ => .nothing) <$> Parser.endOfInput
  | .pure value => Pure.pure value
  | .andThen first second => first.parser.andThen second.parser
  | .butThen first second => first.parser.butThen second.parser
  | .between opening closing p => Parser.between opening.parser closing.parser p.parser
  | .attempt p => p.parser.attempt
  | .ahead p => p.parser.ahead
  | .optional p => (fun v => .list v.toList) <$> p.parser.optional
  | .choice alternatives => Parser.choice (parsers alternatives)
  | .many p => .list <$> p.parser.many
  | .many1 p => .list <$> p.parser.many1
  | .sepBy p separator => .list <$> p.parser.sepBy separator.parser
  | .map change p => change.apply <$> p.parser
  | .bind next p => p.parser >>= next.parser

def parsers : List Term → List (Parser Value)
  | [] => []
  | t :: terms => t.parser :: parsers terms

end

end Term

end Corpus.Parse
