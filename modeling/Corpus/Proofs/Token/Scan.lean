import Corpus.Proofs.Token.Productions
import Corpus.Token.Lexing

/-!
# Lexing as a function on texts

`Grammar.scan` is `Grammar.lex` without cursors: round by round it passes over blanks and takes the
token in front, and it keeps the text that it has been through beside the tokens. **The two are the
same function** (`lex_eq_scan`), for every table.

A round that gets nowhere ends the scan, but the first is exempt: with empty delimiters a token may
be empty, and the first one is kept all the same.
-/

set_option autoImplicit false

namespace Corpus

open Corpus.Parse Corpus.Parse.Parser Corpus.Text

/-- What comes of scanning a text. -/
inductive Scan where
  /-- These tokens were found in the text read, and the rest was left. -/
  | stopped (tokens : List Token) (read rest : List Char)
  /-- A string literal at the front of the rest is not closed. Before it, these tokens were found
  in the text read. -/
  | openString (tokens : List Token) (read rest : List Char)

namespace Scan

/-- A scan that began behind a gap and a token. -/
def behind (gap : List Char) (t : Token) : Scan → Scan
  | .stopped tokens read rest => .stopped (t :: tokens) (gap ++ t.text.toList ++ read) rest
  | .openString tokens read rest => .openString (t :: tokens) (gap ++ t.text.toList ++ read) rest

/-- A scan that passes over blanks where it has stopped. -/
def passBlanks : Scan → Scan
  | .stopped tokens read rest =>
    .stopped tokens (read ++ rest.takeWhile isBlank) (rest.dropWhile isBlank)
  | .openString tokens read rest => .openString tokens read rest

/-- What lexing says of a scan of a text of so many bytes. -/
def result (bytes : Nat) : Scan → Except Failure Lexed
  | .stopped tokens read rest => .ok ⟨tokens, .place (byteCount read) rest⟩
  | .openString _ read _ => .error ⟨.unterminatedString (byteCount read), bytes⟩

end Scan

namespace Grammar

/-- The rounds behind the first token. -/
def rounds (g : Grammar) (r : List Char) : Scan :=
  match g.front (r.dropWhile isBlank) with
  | .token t rest =>
    if byteCount rest < byteCount r then (g.rounds rest).behind (r.takeWhile isBlank) t
    else .stopped [] [] r
  | .openString => .openString [] (r.takeWhile isBlank) (r.dropWhile isBlank)
  | .nothing => .stopped [] [] r
termination_by byteCount r

/-- A text in which no directive is looked for. -/
def scanBody (g : Grammar) (r : List Char) : Scan :=
  match g.front (r.dropWhile isBlank) with
  | .token t rest => ((g.rounds rest).behind (r.takeWhile isBlank) t).passBlanks
  | .openString => .openString [] (r.takeWhile isBlank) (r.dropWhile isBlank)
  | .nothing => .stopped [] (r.takeWhile isBlank) (r.dropWhile isBlank)

/-- The directive that a text begins with, in a grammar that has directives. -/
def cutLeading (g : Grammar) (r : List Char) : Option (Token × List Char) :=
  if g.hasDirective then Token.ofCut .instruction (cutDirective r) else none

/-- A whole text. -/
def scan (g : Grammar) (r : List Char) : Scan :=
  match g.cutLeading r with
  | some (t, rest) => (g.scanBody rest).behind [] t
  | none => g.scanBody r

end Grammar

/-! ## Cursors once more -/

/-- A reply, by what comes of scanning the text that was ahead. -/
def Scan.Answers (o : Nat) (r : List Char) (reply : Reply (List Token)) : Scan → Prop
  | .stopped tokens read rest => reply = .ok tokens (.place (o + byteCount read) rest)
  | .openString _ read _ =>
    reply = .fail ⟨.unterminatedString (o + byteCount read), o + byteCount r⟩
      (.place (o + byteCount r) [])

theorem run_blanks (o : Nat) (r : List Char) :
    blanks.run (.place o r) =
      .ok () (.place (o + byteCount (r.takeWhile isBlank)) (r.dropWhile isBlank)) := by
  have all := (satisfy_reads (.named "whitespace") isBlank).run_many o r
  rw [takeUntil_headIs] at all
  simp [blanks, blank, all]

theorem answers_behind {o : Nat} {r rest : List Char} {t : Token} {s : Scan}
    {reply : Reply (List Token)} (gap : List Char) (hr : gap ++ t.text.toList ++ rest = r)
    (h : s.Answers (o + byteCount (gap ++ t.text.toList)) rest reply) :
    (s.behind gap t).Answers o r (reply.map (t :: ·)) := by
  subst hr
  cases s with
  | stopped tokens read rest =>
    have hreply : reply = _ := h
    simp [hreply, Scan.behind, Scan.Answers, Nat.add_assoc]
  | openString tokens read rest =>
    have hreply : reply = _ := h
    simp [hreply, Scan.behind, Scan.Answers, Nat.add_assoc]

theorem answers_token_behind_blanks (g : Grammar) (o : Nat) (r : List Char) :
    (g.front (r.dropWhile isBlank)).Answers (o + byteCount (r.takeWhile isBlank))
      (r.dropWhile isBlank)
      (g.token.run (.place (o + byteCount (r.takeWhile isBlank)) (r.dropWhile isBlank))) :=
  answers_token g _ _

theorem byteCount_blanks (o : Nat) (r : List Char) :
    o + byteCount (r.takeWhile isBlank) + byteCount (r.dropWhile isBlank) = o + byteCount r := by
  rw [Nat.add_assoc, ← byteCount_append, List.takeWhile_append_dropWhile]

theorem front_behind_blanks {g : Grammar} {r rest : List Char} {t : Token}
    (h : g.front (r.dropWhile isBlank) = .token t rest) :
    r.takeWhile isBlank ++ t.text.toList ++ rest = r := by
  rw [List.append_assoc, Grammar.front_eq_token h, List.takeWhile_append_dropWhile]

theorem answers_rounds (g : Grammar) (o : Nat) (r : List Char) :
    (g.rounds r).Answers o r (sepByOnto g.token blanks [] (.place o r)) := by
  fun_induction Grammar.rounds g r generalizing o with
  | case1 r t rest hf moved ih =>
    -- Less is left than before, so this was a round, and the next one begins behind it.
    have token := answers_token_behind_blanks g o r
    simp only [hf, Front.Answers] at token
    have past : ∀ o', (Cursor.place o' rest).isPast (.place o r) = true := fun _ =>
      decide_eq_true moved
    rw [sepByOnto_nil, run_blanks]
    simp only [token, past, if_true]
    refine answers_behind _ (front_behind_blanks hf) ?_
    rw [byteCount_append, ← Nat.add_assoc]
    exact ih _
  | case2 r t rest hf stuck =>
    -- An empty token with no blanks before it. It is not kept.
    have token := answers_token_behind_blanks g o r
    simp only [hf, Front.Answers] at token
    have past : ∀ o', (Cursor.place o' rest).isPast (.place o r) = false := fun _ =>
      decide_eq_false stuck
    rw [sepByOnto_nil, run_blanks]
    simp [token, past, Scan.Answers]
  | case3 r hf =>
    have token := answers_token_behind_blanks g o r
    simp only [hf, Front.Answers, byteCount_blanks] at token
    have past : ∀ o o', (Cursor.place o' []).isPast (.place o (r.dropWhile isBlank)) = true :=
      fun _ _ => decide_eq_true (byteCount_pos (Grammar.ne_nil_of_front_eq_openString hf))
    rw [sepByOnto_nil, run_blanks]
    simp [token, past, Scan.Answers]
  | case4 r hf =>
    have token := answers_token_behind_blanks g o r
    simp only [hf, Front.Answers] at token
    obtain ⟨e, he⟩ := token
    rw [sepByOnto_nil, run_blanks]
    simp [he, Cursor.isPast_self, Scan.Answers]

theorem answers_passBlanks {p : Parser (List Token)} {c : Cursor} {o : Nat} {r : List Char}
    {s : Scan} (h : s.Answers o r (p.run c)) :
    s.passBlanks.Answers o r ((p.butThen blanks).run c) := by
  cases s with
  | stopped tokens read rest =>
    have reply : p.run c = _ := h
    simp [butThen, run_bind, reply, run_blanks, Scan.passBlanks, Scan.Answers, Nat.add_assoc]
  | openString tokens read rest =>
    have reply : p.run c = _ := h
    simp [butThen, run_bind, reply, Scan.passBlanks, Scan.Answers]

/-- All of a file but its directive. -/
def Grammar.bodyParser (g : Grammar) : Parser (List Token) :=
  blanks.andThen ((sepBy g.token blanks).butThen blanks)

theorem answers_body (g : Grammar) (o : Nat) (r : List Char) :
    (g.scanBody r).Answers o r (g.bodyParser.run (.place o r)) := by
  have token := answers_token_behind_blanks g o r
  have body : g.bodyParser.run (.place o r) = ((sepBy g.token blanks).butThen blanks).run
      (.place (o + byteCount (r.takeWhile isBlank)) (r.dropWhile isBlank)) := by
    simp [Grammar.bodyParser, andThen, run_bind, run_blanks]
  rw [body]
  unfold Grammar.scanBody
  cases hf : g.front (r.dropWhile isBlank) with
  | token t rest =>
    simp only [hf, Front.Answers] at token
    refine answers_passBlanks ?_
    simp only [sepBy, token]
    rw [sepByOnto_eq]
    refine answers_behind _ (front_behind_blanks hf) ?_
    rw [byteCount_append, ← Nat.add_assoc]
    exact answers_rounds g _ rest
  | openString =>
    simp only [hf, Front.Answers, byteCount_blanks] at token
    have past : ∀ o o', (Cursor.place o' []).isPast (.place o (r.dropWhile isBlank)) = true :=
      fun _ _ => decide_eq_true (byteCount_pos (Grammar.ne_nil_of_front_eq_openString hf))
    simp [butThen, run_bind, sepBy, token, past, Scan.Answers]
  | nothing =>
    -- Nothing was read, so there are no tokens and no failure, and no blanks are left to pass over.
    simp only [hf, Front.Answers] at token
    obtain ⟨e, he⟩ := token
    have passed := headIs_dropWhile isBlank r
    simp [butThen, run_bind, sepBy, he, Cursor.isPast_self, Scan.Answers, run_blanks,
      takeWhile_of_headIs passed, dropWhile_of_headIs passed]

/-! ## Whole files -/

theorem cuts_line :
    Cuts id (many1 (charNotIn "\n"))
      fun r => nonempty (r.takeWhile (· != '\n'), r.dropWhile (· != '\n')) := by
  have stop : (!"\n".toList.contains ·) = (· != '\n') := by
    funext x
    show (!(x == '\n' || false)) = !(x == '\n')
    rw [Bool.or_false]
  have line := (satisfy_reads (.noneOf "\n") (!"\n".toList.contains ·)).cuts_many1
  simp only [takeUntil_headIs] at line
  unfold charNotIn
  rw [stop] at line ⊢
  exact line

theorem run_directive_of_some {g : Grammar} {o : Nat} {r text rest : List Char}
    (h : cutDirective r = some (text, rest)) :
    g.directive.run (.place o r) =
      .ok (.ofChars .instruction text) (.place (o + byteCount text) rest) := by
  unfold cutDirective at h
  split at h
  · rename_i r
    split at h
    · rename_i x line _ hline hrest
      cases h
      have opened := run_text_append o "#!" r
      have cut : nonempty (r.takeWhile (· != '\n'), r.dropWhile (· != '\n')) =
          some (x :: line, '\n' :: rest) := by
        rw [hline, hrest]
        rfl
      have body := cuts_line.accepts (o := o + byteCount "#!".toList) cut
      have opener : '#' :: '!' :: r = "#!".toList ++ r := rfl
      rw [opener]
      unfold Grammar.directive between
      simp only [run_bind, opened, body, run_char_cons, if_true]
      simp [Nat.add_assoc]
    · cases h
  · cases h

theorem run_directive_of_none {g : Grammar} {o : Nat} {r : List Char}
    (h : cutDirective r = none) : ∃ e d, g.directive.run (.place o r) = .fail e d := by
  refine exists_fail fun t d hok => ?_
  unfold Grammar.directive between at hok
  by_cases hp : "#!".toList <+: r
  · obtain ⟨s, rfl⟩ := hp
    rw [run_bind, run_bind, run_text_append] at hok
    cases hl : nonempty (s.takeWhile (· != '\n'), s.dropWhile (· != '\n')) with
    | none =>
      obtain ⟨e, d, he⟩ := cuts_line.refuses (o := o + byteCount "#!".toList) hl
      simp only [run_bind, he, reduceCtorEq] at hok
    | some body =>
      obtain ⟨line, rest⟩ := body
      simp only [run_bind, cuts_line.accepts hl] at hok
      obtain ⟨hcut, hne⟩ := nonempty_eq_some.1 hl
      obtain ⟨x, line, rfl⟩ := List.exists_cons_of_ne_nil hne
      obtain ⟨hline, hrest⟩ := Prod.mk.inj hcut
      have hend := headIs_dropWhile (· != '\n') s
      rw [hrest] at hend
      cases rest with
      | nil => simp [run_char_nil] at hok
      | cons y rest =>
        have hy : y = '\n' := by simpa using hend
        subst hy
        have found : cutDirective ('#' :: '!' :: s) ≠ none := by
          simp [cutDirective, hline, hrest]
        exact found h
  · obtain ⟨e, he, -⟩ := run_text_of_not_ahead (o := o) hp
    simp [run_bind, he] at hok

theorem cuts_directive (g : Grammar) :
    Cuts (·.text.toList) g.directive fun r => Token.ofCut .instruction (cutDirective r) where
  accepts := by
    intro o r t rest hr
    obtain ⟨text, hcut, rfl⟩ := Token.ofCut_eq_some.1 hr
    rw [Token.toList_ofChars]
    exact run_directive_of_some hcut
  refuses := fun hr => run_directive_of_none (Token.ofCut_eq_none.1 hr)

theorem run_body_map (g : Grammar) (f : List Token → List Token) (c : Cursor) :
    (do
      blanks
      let tokens ← sepBy g.token blanks
      blanks
      pure (f tokens)).run c = (g.bodyParser.run c).map f := by
  simp only [Grammar.bodyParser, andThen, butThen, run_bind, run_pure]
  cases blanks.run c with
  | fail e d => rfl
  | ok _ d =>
    dsimp only
    cases (sepBy g.token blanks).run d with
    | fail e d => rfl
    | ok tokens d =>
      dsimp only
      cases blanks.run d <;> rfl

/-- What is looked for before the body of a file. -/
def Grammar.leadingParser (g : Grammar) : Parser (Option Token) :=
  if g.hasDirective then optional (attempt g.directive) else pure none

theorem Grammar.run_leadingParser (g : Grammar) (o : Nat) (r : List Char) :
    g.leadingParser.run (.place o r) =
      match g.cutLeading r with
      | some (t, rest) => .ok (some t) (.place (o + byteCount t.text.toList) rest)
      | none => .ok none (.place o r) := by
  unfold leadingParser cutLeading
  cases g.hasDirective with
  | false => rfl
  | true =>
    simp only [if_true]
    cases hc : Token.ofCut .instruction (cutDirective r) with
    | none =>
      obtain ⟨e, he⟩ := (cuts_directive g).run_attempt_of_none (o := o) hc
      simp [Parser.optional, he, Cursor.isPast_self]
    | some cut =>
      obtain ⟨t, rest⟩ := cut
      simp [Parser.optional, (cuts_directive g).run_attempt_of_some (o := o) hc]

theorem cutLeading_append {g : Grammar} {r rest : List Char} {t : Token}
    (h : g.cutLeading r = some (t, rest)) : t.text.toList ++ rest = r := by
  unfold Grammar.cutLeading at h
  split at h
  · exact Grammar.ofCut_append cutDirective_eq_some h
  · cases h

theorem run_file (g : Grammar) (c : Cursor) :
    g.file.run c =
      match g.leadingParser.run c with
      | .ok directive d => (g.bodyParser.run d).map (directive.toList ++ ·)
      | .fail e d => .fail e d := by
  unfold Grammar.file Grammar.leadingParser
  cases g.hasDirective with
  | false => exact run_body_map g ([] ++ ·) c
  | true =>
    simp only [if_true]
    rw [run_bind]
    cases (optional (attempt g.directive)).run c with
    | fail e d => rfl
    | ok directive d => exact run_body_map g (directive.toList ++ ·) d

theorem map_id_append (reply : Reply (List Token)) : reply.map ([] ++ ·) = reply := by
  cases reply <;> rfl

theorem answers_file (g : Grammar) (r : List Char) :
    (g.scan r).Answers 0 r (g.file.run (.place 0 r)) := by
  rw [run_file, g.run_leadingParser]
  unfold Grammar.scan
  cases hc : g.cutLeading r with
  | none =>
    have body := answers_body g 0 r
    rwa [← map_id_append (g.bodyParser.run _)] at body
  | some cut =>
    obtain ⟨t, rest⟩ := cut
    exact answers_behind [] (cutLeading_append hc)
      (answers_body g (0 + byteCount t.text.toList) rest)

/-- Lexing is scanning. -/
theorem Grammar.lex_eq_scan (g : Grammar) (source : String) :
    g.lex source = (g.scan source.toList).result (byteCount source.toList) := by
  have file := answers_file g source.toList
  unfold Grammar.lex runOn
  rw [Cursor.start_eq_place]
  cases hs : g.scan source.toList with
  | stopped tokens read rest =>
    rw [hs] at file
    simp only [Scan.Answers] at file
    simp [file, Scan.result]
  | openString tokens read rest =>
    rw [hs] at file
    simp only [Scan.Answers] at file
    simp [file, Scan.result]

end Corpus
