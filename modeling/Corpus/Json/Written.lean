import Corpus.Json.Quoted
import Corpus.Record
import Corpus.Token

/-!
# What is written as JSON

The corpus is one array of objects, laid out over several lines with two blanks of indentation for
every level. An empty array is written without a break, and nothing follows the closing bracket.
A token is written on one line.
-/

set_option autoImplicit false

namespace Corpus.Json

/-- A field of an object: its name, and its value behind `separator`. -/
def field (separator name value : String) : List Char :=
  quoted name ++ separator.toList ++ quoted value

/-- A record, as a member of the array of records. -/
def writtenRecord (r : Record) : List Char :=
  "  \x7b\n    ".toList ++ field ": " "instruction" r.instruction
    ++ ",\n    ".toList ++ field ": " "input" r.input
    ++ ",\n    ".toList ++ field ": " "output" r.output
    ++ "\n  \x7d".toList

/-- Records as an array: one behind the other, with a comma and a line break between each two. -/
def writtenRecords (records : List Record) : List Char :=
  if records.isEmpty then ['[', ']']
  else "[\n".toList ++ [',', '\n'].intercalate (records.map writtenRecord) ++ "\n]".toList

/-- A token as an object on one line. -/
def writtenToken (t : Token) : List Char :=
  '\x7b' :: field ":" "category" t.category.name ++ ',' :: field ":" "text" t.text ++ ['\x7d']

end Corpus.Json
