import Corpus.Proofs.Parse.Process
import Corpus.Proofs.Token.Scan
import Corpus.Proofs.Token.Advance

/-!
# Lexing ends

What the productions of a grammar do, as processes that may go on for ever (`Parse.Process`). Two
loops are their own and not those of a combinator: a comment is read until its closer accepts, a
string until its delimiter does. **Neither compares cursors.** Each goes on from wherever the
attempt to close has left off. They end because that is where the attempt began (`FailsInPlace`), so
every round but the last has read a character more.

No string in the table of a grammar matters. An empty opener accepts everywhere and an empty closer
at once; a token without characters is then one that the repetition of tokens stops at.
-/

set_option autoImplicit false

namespace Corpus.Parse

/-! ## Loops of the productions -/

namespace Process

def blanks : Process Unit :=
  (fun _ => ()) <$> (ofParser Parser.blank).many

def digits : Process (List Char) :=
  (ofParser (Parser.satisfy (.named "digit") Char.isDigit)).many1

/-- Asks `closer`, and reads a character if it fails, behind the characters already read, which are
given backwards. The end of the input ends the reading as well. -/
def throughRound (closer : Parser (List Char)) :
    List Char × Cursor → Part (Reply (List Char) ⊕ List Char × Cursor)
  | (seen, c) =>
    match closer.run c with
    | .ok text d => pure (.inl (.ok (seen.reverse ++ text) d))
    | .fail e d =>
      if e.isEndOfInput then pure (.inl (.ok seen.reverse d))
      else
        match Parser.one.run d with
        | .ok x f => pure (.inr (x :: seen, f))
        | .fail e' f => pure (.inl (.fail e' f))

def through (closer : Parser (List Char)) : Process (List Char) :=
  ⟨fun c => PFun.fix (throughRound closer) ([], c)⟩

/-- A unit of the body of a string: a backslash with the character after it, or one character. -/
def stringUnit : Parser (List Char) :=
  .choice [escaped.attempt, (fun x => [x]) <$> Parser.one]

/-- Asks for the delimiter, and reads a unit if it does not come next, behind the characters already
read, which are given backwards. -/
def stringRound (delimiter : String) (opened : Nat) :
    List Char × Cursor → Part (Reply (List Char) ⊕ List Char × Cursor)
  | (seen, c) =>
    match (Parser.text delimiter).run c with
    | .ok closer d => pure (.inl (.ok (seen.reverse ++ closer) d))
    | .fail _ d =>
      match stringUnit.run d with
      | .ok piece f => pure (.inr (piece.reverse ++ seen, f))
      | .fail e f =>
        pure (.inl (.fail
          (if e.isEndOfInput then ⟨.unterminatedString opened, f.offset⟩ else e) f))

def stringRest (delimiter : String) (opener : List Char) : Process (List Char) :=
  ⟨fun c => PFun.fix (stringRound delimiter (c.offset - byteCount opener)) ([], c)⟩

end Process

/-- Where the parser fails it stands where it began. -/
def Parser.FailsInPlace {α : Type} (p : Parser α) : Prop :=
  ∀ c e d, p.run c = .fail e d → d = c

theorem Parser.FailsInPlace.text (expected : String) : (Parser.text expected).FailsInPlace := by
  intro c e d h
  unfold Parser.text at h
  dsimp only at h
  split at h
  · cases h
  · split at h <;> exact (Reply.fail.inj h).2.symm

theorem Parser.FailsInPlace.newline : Parser.newline.FailsInPlace := by
  intro c e d h
  unfold Parser.newline at h
  dsimp only at h
  split at h
  · cases h
  · split at h
    · cases h
    · split at h <;> exact (Reply.fail.inj h).2.symm

theorem Parser.run_one (c : Cursor) :
    Parser.one.run c =
      match c.next? with
      | some (x, d) => .ok x d
      | none => .fail ⟨.endOfInput, c.offset⟩ c :=
  rfl

namespace Process.Performs

theorem blanks : Process.blanks.Performs Parser.blanks :=
  ((Performs.ofParser Parser.blank).many compositional_advances.blank).map _

theorem digits : Process.digits.Performs Parser.digits :=
  (Performs.ofParser _).many1 (.satisfy (.named "digit") Char.isDigit)

theorem fix_throughRound {closer : Parser (List Char)} (h : closer.FailsInPlace)
    (seen : List Char) (c : Cursor) :
    PFun.fix (throughRound closer) (seen, c) = Part.some (throughFrom closer seen c) := by
  rw [throughFrom]
  cases hr : closer.run c with
  | ok text d => exact fix_of_last (by simp [throughRound, hr])
  | fail e d =>
    obtain rfl := (h c e d hr).symm
    by_cases he : e.isEndOfInput = true
    · exact fix_of_last (by simp [throughRound, hr, he])
    · cases hn : c.next? with
      | none => exact fix_of_last (by simp [throughRound, hr, he, Parser.run_one, hn])
      | some step =>
        obtain ⟨x, f⟩ := step
        have := Cursor.left_lt_of_next? hn
        have more : throughRound closer (seen, c) = Part.some (.inr (x :: seen, f)) := by
          simp [throughRound, hr, he, Parser.run_one, hn]
        rw [fix_of_more more, fix_throughRound h (x :: seen) f]
        simp [he]
termination_by c.left

theorem through {closer : Parser (List Char)} (h : closer.FailsInPlace) :
    (Process.through closer).Performs (Corpus.through closer) :=
  fix_throughRound h []

/-- A backslash that is the last character is a unit by itself. -/
theorem run_stringUnit (c : Cursor) :
    stringUnit.run c =
      match c.next? with
      | none => .fail ⟨.endOfInput, c.offset⟩ c
      | some (x, d) =>
        if x = '\\' then
          match d.next? with
          | none => .ok [x] d
          | some (y, f) => .ok [x, y] f
        else .ok [x] d := by
  unfold stringUnit Parser.choice Parser.attempt escaped Parser.char Parser.satisfy
  cases hc : c.next? with
  | none => simp [Parser.choiceOr, Parser.run_bind, Parser.run_one, hc, c.isPast_self]
  | some step =>
    obtain ⟨x, d⟩ := step
    by_cases hx : x = '\\'
    · cases hd : d.next? with
      | none => simp [Parser.choiceOr, Parser.run_bind, Parser.run_one, hc, hd, hx, c.isPast_self]
      | some step' => simp [Parser.choiceOr, Parser.run_bind, Parser.run_one, hc, hd, hx]
    · simp [Parser.choiceOr, Parser.run_bind, Parser.run_one, hc, hx, c.isPast_self]

theorem fix_stringRound (delimiter : String) (opened : Nat) (seen : List Char) (c : Cursor) :
    PFun.fix (stringRound delimiter opened) (seen, c) =
      Part.some (stringRestFrom delimiter opened seen c) := by
  rw [stringRestFrom]
  split
  · rename_i closer d accepts
    exact fix_of_last (by simp [stringRound, accepts])
  · rename_i e d refuses
    obtain rfl := (Parser.FailsInPlace.text delimiter c e d refuses).symm
    have reads {piece : List Char} {f : Cursor} (unit : stringUnit.run c = .ok piece f) :
        PFun.fix (stringRound delimiter opened) (seen, c) =
          PFun.fix (stringRound delimiter opened) (piece.reverse ++ seen, f) :=
      fix_of_more (by simp [stringRound, refuses, unit])
    -- What the parser may find where the delimiter is not: the end of the input, a backslash and
    -- the end, a backslash and a character, another character.
    split
    · rename_i first
      refine fix_of_last ?_
      simp [stringRound, refuses, run_stringUnit, first, Failure.isEndOfInput, Cause.isEndOfInput]
    · rename_i x d first
      have := Cursor.left_lt_of_next? first
      split
      · rename_i hx
        split
        · rename_i second
          have unit : stringUnit.run c = .ok [x] d := by simp [run_stringUnit, first, hx, second]
          exact (reads unit).trans (fix_stringRound delimiter opened (x :: seen) d)
        · rename_i y f second
          have := Cursor.left_lt_of_next? second
          have unit : stringUnit.run c = .ok [x, y] f := by simp [run_stringUnit, first, hx, second]
          exact (reads unit).trans (fix_stringRound delimiter opened (y :: x :: seen) f)
      · rename_i hx
        have unit : stringUnit.run c = .ok [x] d := by simp [run_stringUnit, first, hx]
        exact (reads unit).trans (fix_stringRound delimiter opened (x :: seen) d)
termination_by c.left

theorem stringRest (delimiter : String) (opener : List Char) :
    (Process.stringRest delimiter opener).Performs (Corpus.stringRest delimiter opener) :=
  fun c => fix_stringRound delimiter (c.offset - byteCount opener) [] c

end Process.Performs

end Corpus.Parse

namespace Corpus

open Corpus.Parse

/-! ## Productions -/

/-- A comment from its opener through its closer, or to the end of the input. -/
def commentProcess (opener : String) (closer : Parser (List Char)) : Process Token := do
  let opened ← Process.ofParser (.text opener)
  let body ← Process.through closer
  pure (.ofChars .text (opened ++ body))

theorem commentProcess_performs (opener : String) {closer : Parser (List Char)}
    (h : closer.FailsInPlace) : (commentProcess opener closer).Performs (comment opener closer) :=
  (Process.Performs.ofParser _).bind fun _ => (Process.Performs.through h).bind fun _ => .pure _

namespace Grammar

variable (g : Grammar)

def numberProcess : Process Token :=
  .ofChars g.nameCategory <$> Process.digits

def nameProcess : Process Token := do
  let chars ← (Process.ofParser (.satisfy (.named "name character") g.isNameChar)).many1
  .ofParser ⟨fun c =>
    if g.marksString chars && c.sees quote.toList then
      .fail ⟨.namesPrefix (String.ofList chars), c.offset⟩ c
    else .ok (.ofChars g.nameCategory chars) c⟩

def symbolsProcess : Process Token :=
  .ofChars .symbol <$> (Process.ofParser g.symbolChar).many1

def blockCommentProcesses : List (Process Token) :=
  match g.blockComment? with
  | some (opener, closer) => [(commentProcess opener (.text closer)).attempt]
  | none => []

def stringStartProcess (delimiter : String) : Process (List Char × String) :=
  .attempt do
    let marks ← (Process.ofParser (.charIn g.stringMarks)).many
    let opening ← Process.ofParser (.text delimiter)
    pure (marks ++ opening, delimiter)

def stringLiteralProcess : Process Token := do
  let (opener, delimiter) ← Process.choice
    [g.stringStartProcess tripleQuote, g.stringStartProcess quote]
  let body ← Process.stringRest delimiter opener
  pure (.ofChars g.stringCategory (opener ++ body))

def directiveProcess (_ : Grammar) : Process Token := do
  let line ← Process.between (.ofParser (.text "#!")) (.ofParser (.char '\n'))
    (Process.ofParser (.charNotIn "\n")).many1
  pure (.ofChars .instruction ('#' :: '!' :: line ++ ['\n']))

def tokenProcess : Process Token :=
  .choice
    ([g.numberProcess.attempt, g.nameProcess.attempt, g.symbolsProcess.attempt,
      (commentProcess g.lineComment .newline).attempt]
      ++ g.blockCommentProcesses
      ++ [(Process.ofParser g.charLiteral).attempt, g.stringLiteralProcess])

def leadingProcess : Process (Option Token) :=
  if g.hasDirective then g.directiveProcess.attempt.optional else pure none

def bodyProcess : Process (List Token) := do
  Process.blanks
  let tokens ← g.tokenProcess.sepBy Process.blanks
  Process.blanks
  pure tokens

/-- What is done to a file from its beginning to where its lexing stops. -/
def fileProcess : Process (List Token) := do
  let directive ← g.leadingProcess
  (directive.toList ++ ·) <$> g.bodyProcess

open Process (Performs)

theorem numberProcess_performs : g.numberProcess.Performs g.number :=
  Performs.digits.map _

theorem nameProcess_performs : g.nameProcess.Performs g.name :=
  ((Performs.ofParser _).many1 (.satisfy (.named "name character") g.isNameChar)).bind
    fun _ => .ofParser _

theorem symbolsProcess_performs : g.symbolsProcess.Performs g.symbols :=
  ((Performs.ofParser _).many1 (.symbolChar (lexical_advances.symbolEnd g))).map _

theorem blockCommentProcesses_perform :
    List.Forall₂ (fun q p => q.Performs p ∧ p.Advances) g.blockCommentProcesses
      g.blockComments := by
  unfold blockCommentProcesses blockComments
  cases g.blockComment? with
  | none => exact .nil
  | some delimiters =>
    obtain ⟨opener, closer⟩ := delimiters
    have ends := commentProcess_performs opener (.text closer)
    have forward := lexical_advances.comment opener (.text closer)
    exact .cons ⟨ends.attempt, forward.attempt⟩ .nil

theorem stringStartProcess_performs (delimiter : String) :
    (g.stringStartProcess delimiter).Performs (g.stringStart delimiter) :=
  (((Performs.ofParser _).many (compositional_advances.charIn g.stringMarks)).bind fun _ =>
    (Performs.ofParser _).bind fun _ => .pure _).attempt

theorem stringLiteralProcess_performs : g.stringLiteralProcess.Performs g.stringLiteral := by
  have start (delimiter : String) := And.intro (g.stringStartProcess_performs delimiter)
    (Parser.Advances.stringStart g delimiter)
  refine (Performs.choice (.cons (start tripleQuote) (.cons (start quote) .nil))).bind ?_
  rintro ⟨opener, delimiter⟩
  exact (Performs.stringRest delimiter opener).bind fun _ => .pure _

theorem directiveProcess_performs : g.directiveProcess.Performs g.directive :=
  (Performs.between (.ofParser _) (.ofParser _)
    ((Performs.ofParser _).many1 (compositional_advances.charNotIn "\n"))).bind fun _ => .pure _

theorem tokenProcess_performs : g.tokenProcess.Performs g.token := by
  have reads := lexical_advances
  refine Performs.choice (List.rel_append (List.rel_append ?front g.blockCommentProcesses_perform)
    ?back)
  case front =>
    refine .cons ⟨g.numberProcess_performs.attempt, (reads.number g).attempt⟩ ?_
    refine .cons ⟨g.nameProcess_performs.attempt, (reads.name g).attempt⟩ ?_
    refine .cons ⟨g.symbolsProcess_performs.attempt, (reads.symbols g).attempt⟩ ?_
    exact .cons ⟨(commentProcess_performs g.lineComment .newline).attempt,
      (reads.comment g.lineComment .newline).attempt⟩ .nil
  case back =>
    refine .cons ⟨(Performs.ofParser g.charLiteral).attempt, (reads.charLiteral g).attempt⟩ ?_
    exact .cons ⟨g.stringLiteralProcess_performs, reads.stringLiteral g⟩ .nil

theorem leadingProcess_performs : g.leadingProcess.Performs g.leadingParser := by
  have forward : g.directive.Advances := lexical_advances.directive g
  unfold leadingProcess leadingParser
  split
  · exact g.directiveProcess_performs.attempt.optional forward.attempt
  · exact .pure none

theorem bodyProcess_performs : g.bodyProcess.Performs g.bodyParser :=
  Performs.blanks.bind fun _ =>
    (g.tokenProcess_performs.sepBy (lexical_advances.token g) .blanks
      compositional_advances.blanks).bind fun tokens => Performs.blanks.bind fun _ => .pure tokens

theorem fileProcess_performs : g.fileProcess.Performs g.file := by
  intro c
  show (g.leadingProcess.run c >>= _) = _
  rw [g.leadingProcess_performs c, run_file, Part.bind_eq_bind, Part.bind_some]
  cases g.leadingParser.run c with
  | ok directive d => exact g.bodyProcess_performs.map (directive.toList ++ ·) d
  | fail e d => rfl

end Grammar

/-- **Every parse ends.** What is done to read with a parser ends everywhere with the reply of the
parser, however it is made of its parts; the described parsers are among these. A repetition with
`n` characters ahead of it runs what it repeats `n + 2` times or less. And the lexing of a file ends
with every grammar, with empty delimiters as well. -/
theorem every_parse_ends :
    (∀ {α : Type} (s : Program α) (c : Cursor), s.process.run c = Part.some (s.parser.run c)) ∧
    (∀ t : Term, ∃ s : Program Value, s.parser = t.parser) ∧
    (∀ {α β : Type} (s : Program α) (separator : Program β) (c : Cursor),
      (∃ runs, runs ≤ c.rest.length + 2 ∧
        s.process.tallyMany c = Part.some ⟨runs, s.parser.many.run c⟩) ∧
      (∃ runs, runs ≤ c.rest.length + 2 ∧
        s.process.tallyMany1 c = Part.some ⟨runs, s.parser.many1.run c⟩) ∧
      (∃ runs, runs ≤ c.rest.length + 2 ∧
        s.process.tallySepBy separator.process c =
          Part.some ⟨runs, (s.parser.sepBy separator.parser).run c⟩)) ∧
    (∀ (g : Grammar) (source : String),
      g.fileProcess.run (.start source.toList) = Part.some (g.file.runOn source)) := by
  refine ⟨fun s c => s.process_performs c, ?described, ?loops, ?files⟩
  case described =>
    intro t
    exact (compositional_made.term t).exists_program
  case loops =>
    intro α β s separator c
    have ends := s.process_performs
    have forward := s.advances
    refine ⟨?many, ends.exists_tallyMany1 forward c,
      ends.exists_tallySepBy forward separator.process_performs separator.advances c⟩
    obtain ⟨runs, hruns, tally⟩ := ends.exists_tallyMany forward c
    exact ⟨runs, Nat.le_succ_of_le hruns, tally⟩
  case files =>
    intro g source
    exact g.fileProcess_performs (.start source.toList)

end Corpus
