import Corpus.Json.Written
import Corpus.Proofs.Parse.Yields

/-!
# Reading records from JSON

A reader for arrays of objects whose members are strings. It reads any layout: white space stands
anywhere between the marks, the members of an object stand in any order, and a character of a string
is spelled in any way that JSON has, by a letter, by one code unit or by a pair of them. It refuses
what is not JSON, as a comma with nothing behind it, a control inside a string, or half of a pair.

An object is a record if each of the three fields is among its members and no name is given twice.

**What is written is read back** (`readRecords_writtenRecords`). The writer does not know the
reader: the one is a layout, the other a grammar, and they meet in the characters of strings
(`Reader.yields_character`). Each is spelled so that the reader knows how far it goes, and none
begins with a quotation mark, so a string ends where the writer ended it.
-/

set_option autoImplicit false

namespace Corpus.Json

open Corpus.Parse Corpus.Parse.Parser

/-! ## The reader -/

namespace Reader

/-- What JSON takes for white space. -/
def isSpace (c : Char) : Bool :=
  c == ' ' || c == '\t' || c == '\n' || c == '\r'

def space : Parser Unit :=
  (fun _ => ()) <$> many (satisfy (.named "white space") isSpace)

/-- A mark between values, and the white space behind it. -/
def mark (c : Char) : Parser Unit := do
  let _ ← char c
  space

/-- The number that a hexadecimal digit stands for. -/
def hexValue? (c : Char) : Option Nat :=
  if '0' ≤ c ∧ c ≤ '9' then some (c.toNat - '0'.toNat)
  else if 'a' ≤ c ∧ c ≤ 'f' then some (c.toNat - 'a'.toNat + 10)
  else if 'A' ≤ c ∧ c ≤ 'F' then some (c.toNat - 'A'.toNat + 10)
  else none

/-- The character that a letter behind a backslash stands for. -/
def letterMeaning? : Char → Option Char
  | '"' => some '"'
  | '\\' => some '\\'
  | '/' => some '/'
  | 'b' => some '\x08'
  | 'f' => some '\x0c'
  | 'n' => some '\n'
  | 'r' => some '\r'
  | 't' => some '\t'
  | _ => none

/-- One character, for what it means. -/
def meaning {α : Type} (wanted : String) (meaning? : Char → Option α) : Parser α := do
  let c ← one
  match meaning? c with
  | some v => pure v
  | none => refuse (.mismatch (.named wanted) c)

def hexDigit : Parser Nat :=
  meaning "hexadecimal digit" hexValue?

/-- A code unit, as four hexadecimal digits. -/
def codeUnit : Parser Nat := do
  let a ← hexDigit
  let b ← hexDigit
  let c ← hexDigit
  let d ← hexDigit
  pure (((a * 16 + b) * 16 + c) * 16 + d)

/-- The character of one code unit, or of two. The halves of a pair mean nothing by themselves. -/
def codePoint : Parser Char := do
  let high ← codeUnit
  if high < 0xD800 || 0xDFFF < high then pure (.ofNat high)
  else if 0xDBFF < high then refuse (.other "lone second half of a pair")
  else
    let _ ← text "\\u"
    let low ← codeUnit
    if 0xDC00 ≤ low && low ≤ 0xDFFF then
      pure (.ofNat (0x10000 + (high - 0xD800) * 0x400 + (low - 0xDC00)))
    else refuse (.other "lone first half of a pair")

/-- Whether a character stands for itself inside a string. -/
def isPlain (c : Char) : Bool :=
  c != '"' && c != '\\' && 0x20 ≤ c.toNat

/-- One character of a string. -/
def character : Parser Char :=
  choice [
    satisfy (.named "character") isPlain,
    do
      let _ ← char '\\'
      choice [
        do
          let _ ← char 'u'
          codePoint,
        meaning "escape" letterMeaning?]]

/-- A string, and the white space behind it. -/
def string : Parser String := do
  let _ ← char '"'
  let text ← many character
  mark '"'
  pure (String.ofList text)

def member : Parser (String × String) := do
  let name ← string
  mark ':'
  let value ← string
  pure (name, value)

/-- Values between two marks, with a comma between each two. -/
def listed {α : Type} (opening closing : Char) (p : Parser α) : Parser (List α) :=
  between (mark opening) (mark closing) (sepBy p (mark ','))

def object : Parser (List (String × String)) :=
  listed '\x7b' '\x7d' member

/-- The record that the members of an object make. -/
def record? (members : List (String × String)) : Option Record := do
  let instruction ← members.lookup "instruction"
  let input ← members.lookup "input"
  let output ← members.lookup "output"
  if (members.map Prod.fst).Nodup then some ⟨instruction, input, output⟩ else none

def record : Parser Record := do
  let members ← object
  match record? members with
  | some r => pure r
  | none => refuse (.other "not a record")

def array : Parser (List Record) :=
  listed '[' ']' record

end Reader

/-- The records of a JSON text, if it is an array of them and nothing else. -/
def readRecords (json : List Char) : Option (List Record) :=
  match (between Reader.space endOfInput Reader.array).run (.start json) with
  | .ok records _ => some records
  | .fail _ _ => none

namespace Reader

/-! ## White space and marks -/

/-- What is left of a text behind the white space that it begins with. -/
def trim (text : List Char) : List Char :=
  text.dropWhile isSpace

theorem trim_cons (c : Char) (text : List Char) :
    trim (c :: text) = if isSpace c then trim text else c :: text :=
  List.dropWhile_cons

theorem trim_append {blanks : List Char} (h : blanks.all isSpace = true) (text : List Char) :
    trim (blanks ++ text) = trim text := by
  induction blanks with
  | nil => rfl
  | cons c blanks ih =>
    rw [List.all_cons, Bool.and_eq_true] at h
    rw [List.cons_append, trim_cons, if_pos h.1, ih h.2]

theorem trim_quoted (s : String) (rest : List Char) :
    trim (quoted s ++ rest) = quoted s ++ rest :=
  trim_cons '"' _

theorem byteCount_trim_le (text : List Char) : byteCount (trim text) ≤ byteCount text := by
  have whole := congrArg byteCount (List.takeWhile_append_dropWhile (p := isSpace) (l := text))
  rw [byteCount_append] at whole
  exact Nat.le.intro ((Nat.add_comm _ _).trans whole)

theorem yields_space (text : List Char) : space.Yields text () (trim text) :=
  (yields_many_satisfy _ isSpace text).map _

theorem yields_mark (c : Char) (text : List Char) : (mark c).Yields (c :: text) () (trim text) :=
  (yields_char c text).bind (yields_space text)

theorem refuses_mark {c : Char} {text : List Char} (h : headIs (· == c) text = false) :
    (mark c).Refuses text :=
  (refuses_char h).bind _

/-! ## Characters -/

section

variable {α : Type} {meaning? : Char → Option α} {c : Char} {v : α}

theorem yields_meaning (wanted : String) (h : meaning? c = some v) (rest : List Char) :
    (meaning wanted meaning?).Yields (c :: rest) v rest := by
  refine (yields_one c rest).bind ?_
  simp only [h]
  exact Yields.pure v rest

end

theorem hexValue?_digitChar : ∀ d < 16, hexValue? (Nat.digitChar d) = some d := by
  decide

theorem yields_hexDigit {d : Nat} (h : d < 16) (rest : List Char) :
    hexDigit.Yields (Nat.digitChar d :: rest) d rest :=
  yields_meaning _ (hexValue?_digitChar d h) rest

theorem yields_codeUnit {n : Nat} (h : n < 0x100) (rest : List Char) :
    codeUnit.Yields (fourDigits n ++ rest) n rest := by
  have value : ((0 * 16 + 0) * 16 + n / 16) * 16 + n % 16 = n := by omega
  have zero : ∀ rest, hexDigit.Yields ('0' :: rest) 0 rest := @yields_hexDigit 0 (by decide)
  refine (zero _).bind ((zero _).bind ?_)
  refine (yields_hexDigit (d := n / 16) (by omega) _).bind ?_
  refine (yields_hexDigit (d := n % 16) (by omega) rest).bind ?_
  rw [value]
  exact .pure n rest

/-- A code unit below the halves of pairs is a character. -/
theorem yields_codePoint {n : Nat} (h : n < 0x100) (rest : List Char) :
    codePoint.Yields (fourDigits n ++ rest) (.ofNat n) rest := by
  have whole : (decide (n < 0xD800) || decide (0xDFFF < n)) = true := by simp; omega
  refine (yields_codeUnit h rest).bind ?_
  simp only [whole, if_true]
  exact .pure _ rest

/-- A character of a text is written as itself, by a letter, or by its code point. -/
theorem escape_cases (c : Char) :
    isPlain c = true ∧ escape c = [c] ∨
    (∃ letter, letterMeaning? letter = some c ∧ escape c = ['\\', letter]) ∨
    c.toNat < 0x20 ∧ escape c = '\\' :: 'u' :: fourDigits c.toNat := by
  unfold escape
  split
  · exact .inr (.inl ⟨'"', rfl, rfl⟩)
  · exact .inr (.inl ⟨'\\', rfl, rfl⟩)
  · exact .inr (.inl ⟨'b', rfl, rfl⟩)
  · exact .inr (.inl ⟨'f', rfl, rfl⟩)
  · exact .inr (.inl ⟨'n', rfl, rfl⟩)
  · exact .inr (.inl ⟨'r', rfl, rfl⟩)
  · exact .inr (.inl ⟨'t', rfl, rfl⟩)
  · split
    · rename_i control
      exact .inr (.inr ⟨control, rfl⟩)
    · rename_i not_mark not_backslash _ _ _ _ _ not_control
      have plain : c ≠ '"' ∧ c ≠ '\\' := ⟨not_mark, not_backslash⟩
      refine .inl ⟨?_, rfl⟩
      simp [isPlain, plain, Nat.not_lt.1 not_control]

theorem escape_ne_nil (c : Char) : escape c ≠ [] := by
  obtain ⟨-, h⟩ | ⟨_, -, h⟩ | ⟨-, h⟩ := escape_cases c
  all_goals
    rw [h]
    exact List.cons_ne_nil _ _

/-- A character is read back from how it is written, whatever follows. -/
theorem yields_character (c : Char) (rest : List Char) :
    character.Yields (escape c ++ rest) c rest := by
  obtain ⟨plain, h⟩ | ⟨letter, means, h⟩ | ⟨control, h⟩ := escape_cases c
  · rw [h]
    exact (yields_satisfy _ plain rest).choice_head _
  · -- Behind the backslash the reader asks for code units first, and no letter begins like them.
    have letter_ne : headIs (· == 'u') (letter :: rest) = false := by
      refine beq_false_of_ne ?_
      rintro rfl
      cases means
    rw [h]
    refine .choice_second (refuses_satisfy _ rfl) ?_ _
    refine (yields_char '\\' (letter :: rest)).bind ?_
    exact .choice_second ((refuses_char letter_ne).bind _) (yields_meaning _ means rest) _
  · have point := yields_codePoint (Nat.lt_trans control (by decide)) rest
    rw [Char.ofNat_toNat] at point
    rw [h]
    refine .choice_second (refuses_satisfy _ rfl) ?_ _
    refine (yields_char '\\' _).bind ?_
    exact ((yields_char 'u' _).bind point).choice_head _

theorem refuses_character (rest : List Char) : character.Refuses ('"' :: rest) :=
  .choice_pair (refuses_satisfy _ rfl) ((refuses_char rfl).bind _)

/-! ## Strings -/

theorem yields_characters (text rest : List Char) :
    (many character).Yields (text.flatMap escape ++ '"' :: rest) text ('"' :: rest) := by
  -- The closing mark ends the loop, so it has to be in the statement.
  induction text with
  | nil => exact .many_nil (refuses_character rest)
  | cons c text ih =>
    rw [List.flatMap_cons, List.append_assoc]
    refine .many_cons (yields_character c _) ?_ ih
    have := byteCount_pos (escape_ne_nil c)
    rw [byteCount_append (escape c)]
    omega

theorem yields_string (s : String) (rest : List Char) :
    string.Yields (quoted s ++ rest) s (trim rest) := by
  have text : quoted s ++ rest = '"' :: (s.toList.flatMap escape ++ '"' :: rest) := by
    simp [quoted]
  rw [text]
  refine (yields_char '"' _).bind ((yields_characters s.toList rest).bind ?_)
  refine (yields_mark '"' rest).bind ?_
  rw [String.ofList_toList]
  exact .pure s (trim rest)

theorem yields_member (name value : String) (rest : List Char) :
    member.Yields (field ": " name value ++ rest) (name, value) (trim rest) := by
  have text : field ": " name value ++ rest =
      quoted name ++ ':' :: ' ' :: (quoted value ++ rest) := by
    simp [field]
  have before := yields_string name (':' :: ' ' :: (quoted value ++ rest))
  have colon := yields_mark ':' (' ' :: (quoted value ++ rest))
  rw [trim_cons] at before colon
  rw [trim_quoted] at colon
  rw [text]
  exact before.bind (colon.bind ((yields_string value rest).bind (.pure _ _)))

theorem trim_field (name value : String) (rest : List Char) :
    trim (field ": " name value ++ rest) = field ": " name value ++ rest := by
  have text : field ": " name value ++ rest =
      quoted name ++ (": ".toList ++ (quoted value ++ rest)) := by
    simp only [field, List.append_assoc]
  rw [text, trim_quoted]

/-! ## Lists -/

theorem intercalate_cons {α : Type} (separator first : List α) (more : List (List α)) :
    separator.intercalate (first :: more) = first ++ more.flatMap (separator ++ ·) := by
  induction more generalizing first with
  | nil => rw [List.intercalate_singleton, List.flatMap_nil, List.append_nil]
  | cons next more ih =>
    rw [List.intercalate_cons_cons, ih, List.flatMap_cons, List.append_assoc, List.append_assoc]

section

variable {α : Type} {p : Parser α} {write : α → List Char} {before gap behind : List Char}
  {opening closing : Char}
  (reads : ∀ v rest, p.Yields (trim (write v ++ rest)) v (trim rest))
  (hgap : gap.all isSpace = true) (hbehind : behind.all isSpace = true)
  (hspace : isSpace closing = false) (hcomma : closing ≠ ',')

include reads hgap hbehind hspace hcomma

/-- The values behind the first of a list, each with its comma before it. -/
theorem yields_rounds (values : List α) (rest : List Char) :
    (rounds p (mark ',')).Yields
      (trim ((values.map write).flatMap (',' :: gap ++ ·) ++ (behind ++ closing :: rest)))
      values (closing :: rest) := by
  induction values with
  | nil =>
    rw [List.map_nil, List.flatMap_nil, List.nil_append, trim_append hbehind, trim_cons,
      if_neg (ne_true_of_eq_false hspace)]
    exact .rounds_nil (refuses_mark (beq_false_of_ne hcomma))
  | cons v values ih =>
    have comma := yields_mark ',' (gap ++ (write v ++
      ((values.map write).flatMap (',' :: gap ++ ·) ++ (behind ++ closing :: rest))))
    rw [trim_append hgap] at comma
    rw [List.map_cons, List.flatMap_cons, List.append_assoc, List.append_assoc, List.cons_append,
      trim_cons, if_neg (by decide)]
    refine .rounds_cons comma (reads v _) ?_ ih
    refine Nat.lt_of_le_of_lt (byteCount_trim_le _) ?_
    have := Char.utf8Size_pos ','
    simp only [byteCount_cons, byteCount_append]
    omega

theorem yields_listed (hbefore : before.all isSpace = true) (v : α) (values : List α)
    (rest : List Char) :
    (listed opening closing p).Yields
      (opening :: (before ++ ((',' :: gap).intercalate ((v :: values).map write) ++
        (behind ++ closing :: rest)))) (v :: values) (trim rest) := by
  have opened := yields_mark opening (before ++ ((',' :: gap).intercalate
    ((v :: values).map write) ++ (behind ++ closing :: rest)))
  rw [trim_append hbefore, List.map_cons, intercalate_cons, List.append_assoc] at opened
  rw [List.map_cons, intercalate_cons, List.append_assoc]
  refine opened.bind ?_
  refine .bind (.sepBy_cons (reads v _)
    (yields_rounds reads hgap hbehind hspace hcomma values rest)) ?_
  exact (yields_mark closing rest).bind (.pure _ _)

end

/-! ## Records -/

/-- The members of the object that a record is written as. -/
def members (r : Record) : List (String × String) :=
  [("instruction", r.instruction), ("input", r.input), ("output", r.output)]

theorem record?_members (r : Record) : record? (members r) = some r := by
  simp [record?, members, List.lookup_cons]

theorem yields_record (r : Record) (rest : List Char) :
    record.Yields (trim (writtenRecord r ++ rest)) r (trim rest) := by
  have layout : writtenRecord r ++ rest = "  ".toList ++ '\x7b' :: ("\n    ".toList ++
      ((',' :: "\n    ".toList).intercalate ((members r).map fun m => field ": " m.1 m.2) ++
        ("\n  ".toList ++ '\x7d' :: rest))) := by
    have opening : "  \x7b\n    ".toList = "  ".toList ++ '\x7b' :: "\n    ".toList := by decide
    have comma : ",\n    ".toList = ',' :: "\n    ".toList := by decide
    have closing : "\n  \x7d".toList = "\n  ".toList ++ ['\x7d'] := by decide
    unfold writtenRecord
    rw [opening, comma, closing]
    simp only [members, List.map_cons, List.map_nil, List.intercalate_cons_cons,
      List.intercalate_singleton, List.append_assoc, List.cons_append, List.nil_append]
  have read_member : ∀ (m : String × String) (rest : List Char),
      member.Yields (trim (field ": " m.1 m.2 ++ rest)) m (trim rest) := by
    intro m rest
    rw [trim_field]
    exact yields_member m.1 m.2 rest
  have read : object.Yields ('\x7b' :: ("\n    ".toList ++ ((',' :: "\n    ".toList).intercalate
      ((members r).map fun m => field ": " m.1 m.2) ++ ("\n  ".toList ++ '\x7d' :: rest))))
      (members r) (trim rest) :=
    yields_listed read_member (by decide) (by decide) (by decide) (by decide) (by decide) _ _ rest
  rw [layout, trim_append (by decide), trim_cons, if_neg (by decide)]
  refine read.bind ?_
  rw [record?_members]
  exact .pure r (trim rest)

/-- All records are read back, and nothing is left. -/
theorem yields_array (records : List Record) :
    array.Yields (writtenRecords records) records [] := by
  cases records with
  | nil =>
    have refused : record.Refuses [']'] := ((refuses_mark rfl).bind _).bind _
    refine (yields_mark '[' [']']).bind (.bind (.sepBy_nil refused) ?_)
    exact (yields_mark ']' []).bind (.pure _ _)
  | cons r records =>
    have read : array.Yields ('[' :: (['\n'] ++ ((',' :: ['\n']).intercalate
        ((r :: records).map writtenRecord) ++ (['\n'] ++ [']'])))) (r :: records) [] :=
      yields_listed yields_record rfl rfl rfl (by decide) rfl r records []
    exact read

end Reader

/-- **Records are read back from what is written**, whatever characters their texts hold. -/
theorem readRecords_writtenRecords (records : List Record) :
    readRecords (writtenRecords records) = some records := by
  have untrimmed : Reader.trim (writtenRecords records) = writtenRecords records := by
    cases records <;> rfl
  have begun := Reader.yields_space (writtenRecords records)
  rw [untrimmed] at begun
  have whole : (between Reader.space endOfInput Reader.array).Yields (writtenRecords records)
      records [] :=
    begun.bind ((Reader.yields_array records).bind (yields_endOfInput.bind (.pure records [])))
  obtain ⟨o, run⟩ := whole 0
  unfold readRecords
  rw [Cursor.start_eq_place, run]

/-- Another layout and other spellings than the writer's. -/
example :
    readRecords ("[ \x7b\"output\" :\"\\ud83d\\uDE00\",".toList ++
      "\"input\":\"\\/\", \"instruction\":\"\"\x7d ]\r".toList) = some [⟨"", "/", "😀"⟩] := by
  cbv

/-- A comma with nothing behind it. -/
example :
    readRecords "[\x7b\"input\":\"\",\"output\":\"\",\"instruction\":\"\",\x7d]".toList = none := by
  cbv

/-- No two lists of records are written alike. -/
theorem writtenRecords_injective : Function.Injective writtenRecords := by
  intro records records' h
  have read := congrArg readRecords h
  rwa [readRecords_writtenRecords, readRecords_writtenRecords, Option.some_inj] at read

end Corpus.Json
