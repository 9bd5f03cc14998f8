import Corpus.Proofs.Parse.Inside
import Corpus.Proofs.Parse.Locality
import Corpus.Proofs.Token.Advance
import Corpus.Proofs.Token.Productions

/-!
# Tokens see only what is ahead

The productions that are not made by combinators are local as well, so the token of every grammar
is (`lexical_local`). One of them computes with the offset: an unclosed string tells where its
opener began, by going back as many bytes as the opener has. **That many bytes were read**
(`byteCount_le_of_stringStarts`), so the subtraction is never cut off at zero, and behind another
text the opener begins that much further on.
-/

set_option autoImplicit false

namespace Corpus

open Corpus.Parse Corpus.Parse.Parser

namespace Parse.Parser.Local

variable {move : Nat → Cause → Cause}

theorem name (hmove : Cause.MovesPlaces move) (g : Grammar) : g.name.Local move := by
  have local_parts := compositional_local hmove
  refine .bind (local_parts.many1 (.satisfy hmove (.named "name character") g.isNameChar)) ?_
  intro chars n c
  dsimp only
  rw [Cursor.sees_further]
  split
  · simp [Failure.further, hmove.placeless n (.namesPrefix (String.ofList chars)) rfl]
  · rfl

theorem symbolChar (hmove : Cause.MovesPlaces move) {g : Grammar} (h : g.symbolEnd.Local move) :
    g.symbolChar.Local move := by
  intro n c
  simp only [Grammar.symbolChar, h.ahead n c]
  cases (Parser.ahead g.symbolEnd).run c with
  | ok v d => simp [Failure.further, hmove.placeless n .symbolRunEnds rfl]
  | fail e d => exact Local.one hmove n d

-- Both loops ask the closer at the same characters, and end for the same kind of failure.
theorem run_through (hmove : Cause.MovesPlaces move) {closer : Parser (List Char)}
    (h : closer.Local move) (n : Nat) (c : Cursor) :
    (through closer).run (c.further n) = ((through closer).run c).further (move n) n := by
  rw [Corpus.run_through, Corpus.run_through closer c, h]
  cases closer.run c with
  | ok text d => rfl
  | fail e d =>
    have kind : (e.further (move n) n).isEndOfInput = e.isEndOfInput := hmove.kind n e.cause
    by_cases ended : e.isEndOfInput = true
    · simp [kind, ended]
    · simp only [Reply.further_fail, kind, ended, Cursor.next?_further, Bool.false_eq_true,
        if_false]
      cases hnext : c.next? with
      | none => simp [Failure.further, hmove.placeless n .endOfInput rfl]
      | some step =>
        obtain ⟨x, d⟩ := step
        have := Cursor.left_lt_of_next? hnext
        simp [run_through hmove h n d]
termination_by c.left

/-! ## Strings -/

/-- What opens a string is what was read of it. -/
theorem offset_of_stringStart {g : Grammar} {asked delimiter : String} {c d : Cursor}
    {opener : List Char} (h : (g.stringStart asked).run c = .ok (opener, delimiter) d) :
    d.offset = c.offset + byteCount opener := by
  rw [c.eq_place] at h
  by_cases ahead : asked.toList <+: c.rest.dropWhile g.stringMarks.toList.contains
  · obtain ⟨body, hbody⟩ := ahead
    rw [run_stringStart_of_ahead g hbody.symm] at h
    cases h
    rfl
  · obtain ⟨e, he⟩ := run_stringStart_of_not_ahead g (o := c.offset) ahead
    rw [he] at h
    cases h

theorem byteCount_le_of_stringStarts {g : Grammar} {c d : Cursor} {opener : List Char}
    {delimiter : String}
    (h : (Parser.choice [g.stringStart tripleQuote, g.stringStart quote]).run c =
      .ok (opener, delimiter) d) : byteCount opener ≤ d.offset := by
  have ofStart : ∀ {asked : String}, (g.stringStart asked).run c = .ok (opener, delimiter) d →
      byteCount opener ≤ d.offset := by
    intro asked hstart
    have hread := offset_of_stringStart hstart
    omega
  obtain ⟨p, hp, hrun⟩ := exists_of_choiceOr_eq_ok h
  simp only [List.mem_cons, List.not_mem_nil, or_false] at hp
  rcases hp with rfl | rfl
  · exact ofStart hrun
  · exact ofStart hrun

-- Both loops look for the delimiter before the same units.
theorem run_stringRestFrom (delimiter : String) (opened n : Nat) (c : Cursor) :
    stringRestFrom delimiter (opened + n) [] (c.further n) =
      (stringRestFrom delimiter opened [] c).further (Cause.further n) n := by
  rw [stringRestFrom_nil, stringRestFrom_nil delimiter opened c,
    Local.text Cause.movesPlaces_further]
  cases (Parser.text delimiter).run c with
  | ok closer d => rfl
  | fail e d =>
    simp only [Reply.further_fail, Cursor.next?_further]
    cases hfirst : c.next? with
    | none => rfl
    | some step =>
      obtain ⟨x, d⟩ := step
      have := Cursor.left_lt_of_next? hfirst
      simp only [Option.map_some, Cursor.next?_further]
      by_cases hx : x = '\\'
      · cases hsecond : d.next? with
        | none => simp [hx, run_stringRestFrom delimiter opened n d]
        | some step =>
          obtain ⟨y, f⟩ := step
          have := Cursor.left_lt_of_next? hsecond
          simp [hx, run_stringRestFrom delimiter opened n f]
      · simp [hx, run_stringRestFrom delimiter opened n d]
termination_by c.left

theorem stringStart (g : Grammar) (delimiter : String) :
    (g.stringStart delimiter).Local Cause.further :=
  have parts := compositional_local Cause.movesPlaces_further
  parts.attempt (parts.bind (parts.many (parts.charIn g.stringMarks)) fun marks =>
    parts.bind (parts.text delimiter) fun opening => parts.pure (marks ++ opening, delimiter))

theorem stringLiteral (g : Grammar) : g.stringLiteral.Local Cause.further := by
  refine bind_of_run (.choice Cause.movesPlaces_further ?starts) ?rest
  case starts =>
    intro p hp
    simp only [List.mem_cons, List.not_mem_nil, or_false] at hp
    rcases hp with rfl | rfl
    · exact .stringStart g tripleQuote
    · exact .stringStart g quote
  case rest =>
    rintro n c ⟨opener, delimiter⟩ d hrun
    have hread := byteCount_le_of_stringStarts hrun
    have opened : d.offset + n - byteCount opener = d.offset - byteCount opener + n := by omega
    simp only [run_bind, stringRest, Cursor.offset_further, opened, run_stringRestFrom]
    cases stringRestFrom delimiter (d.offset - byteCount opener) [] d <;> rfl

end Parse.Parser.Local

/-- Every token of every grammar is local. -/
theorem lexical_local : Lexical (Parser.Local Cause.further) where
  toCompositional := compositional_local Cause.movesPlaces_further
  name := .name Cause.movesPlaces_further
  symbolChar := .symbolChar Cause.movesPlaces_further
  through := .run_through Cause.movesPlaces_further
  stringLiteral := .stringLiteral

/-! ## One text behind another -/

/-- The cursor in `u ++ v` that has all of `u` behind it. -/
def Parse.Cursor.behind (u v : String) : Cursor :=
  .place (byteCount u.toList) v.toList

/-- **Parsers see only what is ahead.** In the text `u ++ v` there is one cursor with all of `u`
behind it. There, whatever the combinators make does what it does at the start of `v` alone: the
value or the cause of its failure is the same, and the offsets are larger by the size of `u`. The
token of every grammar does so too, except that the cause of an unclosed string names an offset,
which is larger by as much. -/
theorem run_behind (u v : String) :
    (∀ c : Cursor, c = .behind u v ↔
      c.StandsIn (u ++ v).toList ∧ c.offset = byteCount u.toList) ∧
    (∀ (α : Type) (p : Parser α), p.Made →
      p.run (.behind u v) = (p.runOn v).further id (byteCount u.toList)) ∧
    (∀ t : Term, t.parser.Made) ∧
    (∀ g : Grammar, g.token.run (.behind u v) =
      (g.token.runOn v).further (Cause.further (byteCount u.toList)) (byteCount u.toList)) ∧
    (∀ (n : Nat) (cause : Cause), (cause.further n).isEndOfInput = cause.isEndOfInput ∧
      (cause.further n).message =
        match cause with
        | .unterminatedString opened =>
          s!"unterminated string literal opened at offset {opened + n}"
        | cause => cause.message) := by
  have hstart : Cursor.behind u v = (Cursor.start v.toList).further (byteCount u.toList) := by
    rw [Cursor.start_eq_place, Cursor.further_place, Nat.zero_add, Cursor.behind]
  have here : (Cursor.behind u v).StandsIn (u ++ v).toList :=
    ⟨u.toList, String.toList_append.symm, rfl⟩
  refine ⟨?place, ?made, compositional_made.term, ?token, ?told⟩
  case place =>
    intro c
    constructor
    · rintro rfl
      exact ⟨here, rfl⟩
    · rintro ⟨hc, hoffset⟩
      exact hc.ext here hoffset
  case made =>
    intro α p made
    have hp := made.of_compositional (compositional_local Cause.movesPlaces_id)
    rw [hstart, hp, Parser.runOn]
  case token =>
    intro g
    rw [hstart, lexical_local.token g, Parser.runOn]
  case told =>
    intro n cause
    refine ⟨Cause.movesPlaces_further.kind n cause, ?_⟩
    cases cause <;> rfl

/-- A string that is not closed, behind three bytes. Read by itself it is told to begin at its own
start. A described parser that gives up behind the quotation mark is moved in the same way. -/
theorem run_behind_unclosed :
    let c := Cursor.place 3 "\"中".toList
    let p := (Term.andThen (.char '"') (.char 'x')).parser
    c.StandsIn ("é " ++ "\"中").toList ∧ p.Made ∧
    p.run c = .fail ⟨.mismatch (.char 'x') '中', 4⟩ (.place 4 ['中']) ∧
    p.run c = (p.runOn "\"中").further id 3 ∧
    Grammar.cLike.token.runOn "\"中" = .fail ⟨.unterminatedString 0, 4⟩ (.place 4 []) ∧
    Grammar.cLike.token.run c = .fail ⟨.unterminatedString 3, 7⟩ (.place 7 []) := by
  have gaveUp : (Term.andThen (.char '"') (.char 'x')).parser.run (.place 3 "\"中".toList) =
      .fail ⟨.mismatch (.char 'x') '中', 4⟩ (.place 4 ['中']) := by
    rfl
  have alone : Grammar.cLike.token.runOn "\"中" =
      .fail ⟨.unterminatedString 0, 4⟩ (.place 4 []) := by
    decide +kernel
  obtain ⟨place, made, described, token, -⟩ := run_behind "é " "\"中"
  have size : byteCount "é ".toList = 3 := by decide
  rw [size] at place made token
  have moved := made _ _ (described (.andThen (.char '"') (.char 'x')))
  have behind := token .cLike
  rw [alone] at behind
  exact ⟨((place _).1 rfl).1, described _, gaveUp, moved, alone, behind⟩

end Corpus
