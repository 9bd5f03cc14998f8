import Corpus.Proofs.Token.Layout

/-!
# Strings that are never closed

A file fails for one reason, and the failure tells all of it. The text is first cut into blanks and
tokens, by the parsers themselves (`Grammar.Reads`), up to a string literal whose delimiter does not
come again (`Grammar.BeginsOpenString`). The failure then points at the end of the file and names
the offset at which the literal begins, its marks included (`lex_eq_error`).

Where the delimiter is looked for matters: not at every character behind the opener, but between
the units of the body, so that a delimiter behind a backslash does not count (`cutBody_eq_none`).
-/

set_option autoImplicit false

namespace Corpus

open Corpus.Parse Corpus.Parse.Parser Corpus.Text

/-! ## The units of a body -/

/-- The units of the body of a string literal: a backslash with the character after it, or one
character. A backslash at the very end is a unit by itself. -/
def bodyUnits : List Char → List (List Char)
  | [] => []
  | '\\' :: x :: r => ['\\', x] :: bodyUnits r
  | x :: r => [x] :: bodyUnits r

theorem bodyUnits_cons {x : Char} (hx : x ≠ '\\') (r : List Char) :
    bodyUnits (x :: r) = [x] :: bodyUnits r := by
  rw [bodyUnits]
  rintro y s rfl
  exact absurd rfl hx

theorem flatten_bodyUnits (r : List Char) : (bodyUnits r).flatten = r := by
  fun_induction bodyUnits r with
  | case1 => rfl
  | case2 x r ih =>
    rw [List.flatten_cons, ih]
    rfl
  | case3 x r _ ih =>
    rw [List.flatten_cons, ih]
    rfl

/-- Nowhere between two units, before the first or behind the last, does the delimiter come next. -/
def FreeOf (delimiter : List Char) (units : List (List Char)) : Prop :=
  ∀ before after, before ++ after = units → ¬ delimiter <+: after.flatten

section

variable {delimiter : List Char}

theorem freeOf_nil (hd : delimiter ≠ []) : FreeOf delimiter [] := by
  intro before after h
  obtain ⟨-, rfl⟩ := List.append_eq_nil_iff.1 h
  exact mt List.prefix_nil.1 hd

theorem freeOf_cons {unit : List Char} {units : List (List Char)} :
    FreeOf delimiter (unit :: units) ↔
      ¬ delimiter <+: unit ++ units.flatten ∧ FreeOf delimiter units := by
  constructor
  · intro h
    refine ⟨h [] (unit :: units) rfl, ?_⟩
    rintro before after rfl
    exact h (unit :: before) after rfl
  · rintro ⟨hfirst, hrest⟩ before after h
    cases before with
    | nil =>
      obtain rfl : after = unit :: units := h
      exact hfirst
    | cons u before =>
      obtain ⟨-, hunits⟩ := List.cons_eq_cons.1 h
      exact hrest before after hunits

/-- A body is not closed if its delimiter does not come before any of its units. -/
theorem cutBody_eq_none (hd : delimiter ≠ []) (r : List Char) :
    cutBody delimiter r = none ↔ FreeOf delimiter (bodyUnits r) := by
  fun_induction cutBody delimiter r with
  | case1 => exact iff_of_true rfl (freeOf_nil hd)
  | case2 x r hp =>
    have found : ¬ FreeOf delimiter (bodyUnits (x :: r)) := by
      intro h
      have hfirst := h [] (bodyUnits (x :: r)) rfl
      rw [flatten_bodyUnits] at hfirst
      exact hfirst hp
    exact iff_of_false (fun h => by cases h) found
  | case3 hp => exact iff_of_true rfl (freeOf_cons.2 ⟨hp, freeOf_nil hd⟩)
  | case4 y s hp ih =>
    have hunits : bodyUnits ('\\' :: y :: s) = ['\\', y] :: bodyUnits s := rfl
    rw [hunits, freeOf_cons, flatten_bodyUnits, Option.map_eq_none_iff, ih]
    exact (and_iff_right hp).symm
  | case5 x r hp hx ih =>
    rw [bodyUnits_cons hx, freeOf_cons, flatten_bodyUnits, Option.map_eq_none_iff, ih]
    exact (and_iff_right hp).symm

end

/-! ## Open strings -/

namespace Grammar

variable (g : Grammar)

/-- The text begins a string literal that is not closed: marks, as many as there are, a delimiter,
which is the longer one if that comes next, and a body that is free of the delimiter. -/
def BeginsOpenString (r : List Char) : Prop :=
  ∃ marks delimiter body, r = marks ++ (delimiter ++ body) ∧
    marks.all g.stringMarks.toList.contains = true ∧
    headIs g.stringMarks.toList.contains (delimiter ++ body) = false ∧
    delimiter = (if tripleQuote.toList <+: delimiter ++ body then tripleQuote.toList
      else quote.toList) ∧
    FreeOf delimiter (bodyUnits body)

variable {g}

theorem freeOf_of_frontBody {opener body : List Char} {delimiter : String}
    (hd : delimiter.toList ≠ []) (h : g.frontBody opener delimiter body = .openString) :
    FreeOf delimiter.toList (bodyUnits body) := by
  unfold frontBody at h
  split at h
  · cases h
  · rename_i hcut
    exact (cutBody_eq_none hd body).1 hcut

/-- Behind the marks, the delimiter is the longer one that comes next. -/
theorem exists_of_frontMarked {marks r : List Char} (h : g.frontMarked marks r = .openString) :
    ∃ delimiter body, r = delimiter ++ body ∧
      delimiter = (if tripleQuote.toList <+: delimiter ++ body then tripleQuote.toList
        else quote.toList) ∧
      FreeOf delimiter (bodyUnits body) := by
  unfold frontMarked at h
  split at h
  · rename_i delimiter body hc
    obtain ⟨rfl, rfl⟩ := cutText_eq_some.1 hc
    refine ⟨_, body, rfl, ?_, freeOf_of_frontBody (by decide) h⟩
    rw [if_pos (List.prefix_append _ _)]
  · rename_i triple
    split at h
    · rename_i delimiter body hc
      obtain ⟨rfl, rfl⟩ := cutText_eq_some.1 hc
      refine ⟨_, body, rfl, ?_, freeOf_of_frontBody (by decide) h⟩
      rw [if_neg (cutText_eq_none.1 triple)]
    · cases h

theorem beginsOpenString_of_front {r : List Char} (h : g.front r = .openString) :
    g.BeginsOpenString r := by
  have hstring := frontString_of_front_eq_openString h
  obtain ⟨delimiter, body, hr, hdelimiter, hfree⟩ := exists_of_frontMarked hstring
  refine ⟨r.takeWhile g.stringMarks.toList.contains, delimiter, body, ?_, ?_, ?_, hdelimiter,
    hfree⟩
  · rw [← hr, List.takeWhile_append_dropWhile]
  · exact List.all_takeWhile
  · rw [← hr]
    exact headIs_dropWhile _ r

/-! ## What was read before -/

variable (g)

/-- From the first cursor to the second, the parsers of the grammar read blanks and tokens in turn,
and these were the tokens. -/
inductive Reads : Cursor → List Token → Cursor → Prop where
  | blanks {c d : Cursor} (hgap : blanks.run c = .ok () d) : Reads c [] d
  | token {c d f stop : Cursor} {t : Token} {tokens : List Token} (hgap : blanks.run c = .ok () d)
      (ht : g.token.run d = .ok t f) (h : Reads f tokens stop) : Reads c (t :: tokens) stop

/-- From the beginning of a text to the cursor, the parsers of the grammar read a directive, where
the grammar has one and the text begins with it, and then blanks and tokens in turn. -/
def ReadsFile (source : List Char) (tokens : List Token) (stop : Cursor) : Prop :=
  ∃ directive c more, g.leadingParser.run (.start source) = .ok directive c ∧
    g.Reads c more stop ∧ tokens = directive.toList ++ more

end Grammar

/-- A scan of what is ahead of the cursor: if it ends at an open string, the parsers of the grammar
have read what is before it. -/
def Scan.ReadFrom (g : Grammar) (c : Cursor) : Scan → Prop
  | .stopped .. => True
  | .openString tokens read rest =>
    g.Reads c tokens (.place (c.offset + byteCount read) rest) ∧ g.front rest = .openString

variable (g : Grammar)

/-- One round of reading: the blanks and the token behind them. -/
theorem Scan.ReadFrom.behind {o : Nat} {r rest : List Char} {t : Token} {s : Scan}
    (hf : g.front (r.dropWhile isBlank) = .token t rest)
    (h : s.ReadFrom g
      (.place (o + byteCount (r.takeWhile isBlank) + byteCount t.text.toList) rest)) :
    (s.behind (r.takeWhile isBlank) t).ReadFrom g (.place o r) := by
  cases s with
  | stopped => trivial
  | openString tokens read left =>
    obtain ⟨hreads, hopen⟩ := h
    have token := answers_token_behind_blanks g o r
    simp only [hf, Front.Answers] at token
    refine ⟨.token (run_blanks o r) token ?_, hopen⟩
    simpa only [Cursor.offset_place, byteCount_append, Nat.add_assoc] using hreads

theorem Scan.ReadFrom.passBlanks {c : Cursor} {s : Scan} (h : s.ReadFrom g c) :
    s.passBlanks.ReadFrom g c := by
  cases s <;> exact h

theorem readFrom_gap {o : Nat} {r : List Char} (hf : g.front (r.dropWhile isBlank) = .openString) :
    (Scan.openString [] (r.takeWhile isBlank) (r.dropWhile isBlank)).ReadFrom g (.place o r) :=
  ⟨.blanks (run_blanks o r), hf⟩

theorem readFrom_rounds (o : Nat) (r : List Char) : (g.rounds r).ReadFrom g (.place o r) := by
  fun_induction Grammar.rounds g r generalizing o with
  | case1 r t rest hf _ ih => exact (ih _).behind g hf
  | case2 => trivial
  | case3 r hf => exact readFrom_gap g hf
  | case4 => trivial

theorem readFrom_scanBody (o : Nat) (r : List Char) : (g.scanBody r).ReadFrom g (.place o r) := by
  unfold Grammar.scanBody
  split
  · rename_i t rest hf
    exact ((readFrom_rounds g _ rest).behind g hf).passBlanks g
  · rename_i hf
    exact readFrom_gap g hf
  · trivial

/-- A scan that ends at an open string has read the file up to there. -/
theorem readsFile_of_scan {r : List Char} {tokens : List Token} {read rest : List Char}
    (h : g.scan r = .openString tokens read rest) :
    g.ReadsFile r tokens (.place (byteCount read) rest) ∧ g.front rest = .openString := by
  have leading := g.run_leadingParser 0 r
  unfold Grammar.scan at h
  split at h
  · rename_i t left hc
    have body := readFrom_scanBody g (0 + byteCount t.text.toList) left
    rw [hc] at leading
    cases hs : g.scanBody left with
    | stopped =>
      rw [hs] at h
      cases h
    | openString more read' rest' =>
      rw [hs] at h body
      cases h
      obtain ⟨hreads, hopen⟩ := body
      refine ⟨⟨some t, _, more, leading, ?_, rfl⟩, hopen⟩
      simpa using hreads
  · rename_i hc
    have body := readFrom_scanBody g 0 r
    rw [hc] at leading
    rw [h] at body
    obtain ⟨hreads, hopen⟩ := body
    refine ⟨⟨none, _, tokens, leading, ?_, rfl⟩, hopen⟩
    simpa using hreads

/-! ## The failure of a file -/

variable {g}

/-- **A file fails at an unclosed string and at nothing else, and the failure tells where.** The
text before the string is blanks and the tokens that were read; the failure points at the end of
the text, is no want of input, and names the offset at which the string begins. -/
theorem lex_eq_error {source : String} {e : Failure} (h : g.lex source = .error e) :
    ∃ tokens read rest, source.toList = read ++ rest ∧ LaidOver tokens read ∧
      g.ReadsFile source.toList tokens (.place (byteCount read) rest) ∧
      g.BeginsOpenString rest ∧
      e = ⟨.unterminatedString (byteCount read), byteCount source.toList⟩ ∧
      e.isEndOfInput = false ∧
      e.cause.message = s!"unterminated string literal opened at offset {byteCount read}" := by
  rw [Grammar.lex_eq_scan] at h
  have lays := lays_scan g source.toList
  cases hs : g.scan source.toList with
  | stopped tokens read rest =>
    rw [hs] at h
    cases h
  | openString tokens read rest =>
    rw [hs] at h lays
    cases h
    obtain ⟨hread, laid⟩ := lays
    obtain ⟨hreads, hopen⟩ := readsFile_of_scan g hs
    exact ⟨tokens, read, rest, hread.symm, laid, hreads, Grammar.beginsOpenString_of_front hopen,
      rfl, rfl, rfl⟩

/-- A marked string behind a directive. The quotation mark in it is escaped, and so would be one
behind its last character. -/
theorem lex_eq_error_escaped :
    let source := "#!x\né = rf\"中\\\"b\\"
    let e : Failure := ⟨.unterminatedString 9, 19⟩
    Grammar.pythonLike.lex source = .error e ∧
    ∃ tokens read rest, source.toList = read ++ rest ∧ LaidOver tokens read ∧
      Grammar.pythonLike.ReadsFile source.toList tokens (.place (byteCount read) rest) ∧
      Grammar.pythonLike.BeginsOpenString rest ∧
      e = ⟨.unterminatedString (byteCount read), byteCount source.toList⟩ ∧
      e.isEndOfInput = false ∧
      e.cause.message = s!"unterminated string literal opened at offset {byteCount read}" := by
  intro source e
  have lexed : Grammar.pythonLike.lex source = .error e := by
    decide +kernel
  exact ⟨lexed, lex_eq_error lexed⟩

end Corpus
