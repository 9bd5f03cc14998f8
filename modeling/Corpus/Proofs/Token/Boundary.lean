import Corpus.Proofs.Token.Truncation

/-!
# Files that are cut between two tokens

A file that lexes can be cut right behind any of its tokens. **Both parts lex, to the tokens before
the cut and to those behind it** (`lex_splits`), so nothing that a production looks at reaches
across a boundary in a way that matters. In the second part no directive is looked for, since it
does not begin the file.

Where a token ends is told by the parsers (`Grammar.ReadsTo`). The proof goes by what they do on
texts (`Grammar.Takes`): behind the cut nothing changes, and before it each token is followed by
the next one still, or by the cut.
-/

set_option autoImplicit false

namespace Corpus

open Corpus.Parse Corpus.Parse.Parser Corpus.Text

namespace Grammar

variable (g : Grammar)

/-- From the first cursor to the second, the parsers of the grammar read these tokens, with blanks
before each. The second is right behind the last token. -/
inductive ReadsTo : Cursor → List Token → Cursor → Prop where
  | nil (c : Cursor) : ReadsTo c [] c
  | token {c d f stop : Cursor} {t : Token} {tokens : List Token} (hgap : blanks.run c = .ok () d)
      (ht : g.token.run d = .ok t f) (h : ReadsTo f tokens stop) : ReadsTo c (t :: tokens) stop

/-- From the beginning of a text to the cursor, the parsers of the grammar read these tokens, of
which the first is a directive where the grammar has one and the text begins with it. -/
def ReadsFileTo (source : List Char) (tokens : List Token) (stop : Cursor) : Prop :=
  ∃ directive c more, g.leadingParser.run (.start source) = .ok directive c ∧
    g.ReadsTo c more stop ∧ tokens = directive.toList ++ more

/-- The table without directives. -/
def withoutDirective : Grammar :=
  { g with hasDirective := false }

/-- Tokens taken off the front of a text, one after the other and each behind its blanks, and what
is left behind the last. -/
inductive Takes : List Char → List Token → List Char → Prop where
  | nil (r : List Char) : Takes r [] r
  | token {r rest last : List Char} {t : Token} {tokens : List Token}
      (hf : g.front (r.dropWhile isBlank) = .token t rest) (h : Takes rest tokens last) :
      Takes r (t :: tokens) last

end Grammar

variable {g : Grammar} {r rest last v w : List Char} {t : Token} {tokens more : List Token}

/-! ## Texts -/

theorem Grammar.Takes.split (h : g.Takes r (tokens ++ more) last) :
    ∃ rest, g.Takes r tokens rest ∧ g.Takes rest more last := by
  induction tokens generalizing r with
  | nil => exact ⟨r, .nil r, h⟩
  | cons t tokens ih =>
    cases h with
    | token hf h =>
      obtain ⟨rest, before, behind⟩ := ih h
      exact ⟨rest, .token hf before, behind⟩

/-- The parsers read what is taken, from any offset on. -/
theorem Grammar.Takes.readsTo (h : g.Takes r tokens last) (o : Nat) :
    ∃ v, r = v ++ last ∧ g.ReadsTo (.place o r) tokens (.place (o + byteCount v) last) := by
  induction h generalizing o with
  | nil r => exact ⟨[], rfl, .nil _⟩
  | @token r rest last t tokens hf _ ih =>
    have token := answers_token_behind_blanks g o r
    simp only [hf, Front.Answers] at token
    obtain ⟨v, rfl, reads⟩ := ih (o + byteCount (r.takeWhile isBlank) + byteCount t.text.toList)
    refine ⟨r.takeWhile isBlank ++ t.text.toList ++ v, ?_, .token (run_blanks o r) token ?_⟩
    · rw [List.append_assoc, front_behind_blanks hf]
    · simpa only [byteCount_append, Nat.add_assoc] using reads

/-- A token does not begin with a blank. -/
theorem exists_text_of_front (hg : g.Guarded)
    (hf : g.front (r.dropWhile isBlank) = .token t rest) :
    ∃ x s, t.text.toList = x :: s ∧ isBlank x = false := by
  have passed := headIs_dropWhile isBlank r
  obtain ⟨x, s, ht⟩ := List.exists_cons_of_ne_nil (front_ne_nil hg hf)
  rw [← Grammar.front_eq_token hf, ht] at passed
  exact ⟨x, s, ht, passed⟩

/-- Where tokens were taken to some place, the text may as well end there. What stops a run of
symbols before the tokens still does, which is what the token before them has to know. -/
theorem Grammar.Takes.truncate (hg : g.Plain) (h : g.Takes r tokens w) :
    ∃ v, r = v ++ w ∧ g.Takes v tokens [] ∧
      (tokens ≠ [] → g.stops r = true → g.stops v = true) := by
  induction h with
  | nil r => exact ⟨[], rfl, .nil [], fun hne => absurd rfl hne⟩
  | @token r rest w t tokens hf _ ih =>
    obtain ⟨v, rfl, taken, stops⟩ := ih
    have hr := front_behind_blanks hf
    obtain ⟨x, s, ht, hx⟩ := exists_text_of_front hg.guarded hf
    rw [← Grammar.front_eq_token hf] at hf
    have ends : v = [] ∨ (g.stops (v ++ w) = true → g.stops v = true) := by
      cases tokens with
      | nil =>
        cases taken
        exact .inl rfl
      | cons t' tokens => exact .inr (stops (List.cons_ne_nil t' tokens))
    have kept := front_truncate hg hf (by rw [ht]; exact hx) ends
    generalize hgap : r.takeWhile isBlank = gap at hr
    have blank : ∀ y ∈ gap, isBlank y = true := by
      intro y hy
      rw [← hgap] at hy
      exact List.mem_takeWhile_imp hy
    have solid : headIs isBlank (t.text.toList ++ v) = false := by
      rw [ht]
      exact hx
    refine ⟨gap ++ (t.text.toList ++ v), ?_, ?_, fun _ hstops => ?_⟩
    · rw [← hr, List.append_assoc, List.append_assoc, List.append_assoc]
    · refine .token ?_ taken
      rw [List.dropWhile_append_of_pos blank, dropWhile_of_headIs solid, kept]
    · cases gap with
      | nil =>
        rw [List.nil_append] at hr ⊢
        rw [← hr] at hstops
        exact stops_truncate hg hf hstops
      | cons y gap =>
        -- A gap stops a run of symbols by itself.
        unfold Grammar.stops
        rw [List.cons_append, headIs_cons, blank y (List.mem_cons_self ..)]
        rfl

/-! ## The single pass -/

theorem map_eq_ok {ε α β : Type} {f : α → β} {reply : Except ε α} {b : β} :
    reply.map f = .ok b ↔ ∃ a, reply = .ok a ∧ f a = b := by
  cases reply with
  | error e =>
    refine iff_of_false (fun h => by cases h) ?_
    rintro ⟨_, ⟨⟩, -⟩
  | ok a =>
    constructor
    · rintro ⟨⟩
      exact ⟨a, rfl, rfl⟩
    · rintro ⟨_, ⟨⟩, rfl⟩
      rfl

theorem exists_takes_of_passes (hg : g.Plain) {o : Nat} (h : g.passes o r = .ok tokens) :
    ∃ last, g.Takes r tokens last ∧ last.all isBlank = true := by
  fun_induction Grammar.rounds g r generalizing o tokens with
  | case1 r t rest hf _ ih =>
    rw [passes_eq hg, hf] at h
    obtain ⟨more, hmore, rfl⟩ := map_eq_ok.1 h
    obtain ⟨last, taken, blank⟩ := ih hmore
    exact ⟨last, .token hf taken, blank⟩
  | case2 r t rest hf stuck =>
    -- The token is not empty, so there is less behind it.
    have hr := congrArg byteCount (front_behind_blanks hf)
    have pos := byteCount_pos (front_ne_nil hg.guarded hf)
    rw [byteCount_append, byteCount_append] at hr
    omega
  | case3 r hf =>
    rw [passes_eq hg, hf] at h
    cases h
  | case4 r hf =>
    rw [passes_eq hg, hf] at h
    cases h
    exact ⟨r, .nil r, all_isBlank_of_front_eq_nothing hg.guarded hf⟩

theorem Grammar.Takes.passes_eq_ok (hg : g.Plain) (h : g.Takes r tokens last)
    (blank : last.all isBlank = true) (o : Nat) : g.passes o r = .ok tokens := by
  induction h generalizing o with
  | nil r =>
    have passed : r.dropWhile isBlank = [] := List.dropWhile_eq_nil_iff.2 (List.all_eq_true.1 blank)
    rw [passes_eq hg, passed, front_nil hg.guarded]
  | token hf _ ih =>
    rw [passes_eq hg, hf]
    dsimp only
    rw [ih blank]
    rfl

theorem lex_eq_map_singlePass (hg : g.Plain) (source : String) :
    g.lex source = (g.singlePass source).map
      fun tokens => ⟨tokens, .place (byteCount source.toList) []⟩ := by
  rw [Grammar.lex_eq_scan, result_scan hg.guarded, singlePass_eq_scan hg]

/-! ## Directives -/

/-- A directive is one whatever is behind it. -/
theorem cutDirective_text {text : List Char} (h : cutDirective r = some (text, rest))
    (other : List Char) : cutDirective (text ++ other) = some (text, other) := by
  unfold cutDirective at h
  split at h
  · rename_i r
    split at h
    · rename_i x line rest' hline hrest
      cases h
      have plain : ∀ y ∈ x :: line, (y != '\n') = true := by
        intro y hy
        rw [← hline] at hy
        exact List.mem_takeWhile_imp (p := (· != '\n')) hy
      have whole : '#' :: '!' :: x :: line ++ ['\n'] ++ other =
          '#' :: '!' :: (x :: line ++ '\n' :: other) := by simp
      have ends : headIs (· != '\n') ('\n' :: other) = false := rfl
      rw [whole]
      simp only [cutDirective, List.takeWhile_append_of_pos plain,
        List.dropWhile_append_of_pos plain, takeWhile_of_headIs ends, dropWhile_of_headIs ends,
        List.append_nil]
    · cases h
  · cases h

theorem cutLeading_text (h : g.cutLeading r = some (t, rest)) (other : List Char) :
    g.cutLeading (t.text.toList ++ other) = some (t, other) := by
  unfold Grammar.cutLeading at h ⊢
  split at h
  · rename_i directives
    obtain ⟨text, hcut, rfl⟩ := Token.ofCut_eq_some.1 h
    rw [if_pos directives, Token.toList_ofChars, cutDirective_text hcut]
    rfl
  · cases h

theorem cutLeading_eq_none_of_append (h : g.cutLeading (v ++ w) = none) :
    g.cutLeading v = none := by
  cases hv : g.cutLeading v with
  | none => rfl
  | some cut =>
    obtain ⟨t, rest⟩ := cut
    have same := cutLeading_text hv (rest ++ w)
    rw [← List.append_assoc, cutLeading_append hv, h] at same
    cases same

/-! ## Whole sources -/

theorem lex_of_takes (hg : g.Plain) {source : String} (hc : g.cutLeading source.toList = none)
    (h : g.Takes source.toList tokens last) (blank : last.all isBlank = true) :
    g.lex source = .ok ⟨tokens, .place (byteCount source.toList) []⟩ := by
  rw [lex_eq_map_singlePass hg, Grammar.singlePass, hc]
  dsimp only
  rw [h.passes_eq_ok hg blank]
  rfl

theorem lex_of_cutLeading (hg : g.Plain) {source : String}
    (hc : g.cutLeading source.toList = some (t, rest)) (h : g.Takes rest tokens last)
    (blank : last.all isBlank = true) :
    g.lex source = .ok ⟨t :: tokens, .place (byteCount source.toList) []⟩ := by
  rw [lex_eq_map_singlePass hg, Grammar.singlePass, hc]
  dsimp only
  rw [h.passes_eq_ok hg blank]
  rfl

theorem exists_takes_of_lex (hg : g.Plain) {source : String} {l : Lexed}
    (h : g.lex source = .ok l) :
    ∃ last, last.all isBlank = true ∧
      ((g.cutLeading source.toList = none ∧ g.Takes source.toList l.tokens last) ∨
        ∃ t rest tokens, g.cutLeading source.toList = some (t, rest) ∧ l.tokens = t :: tokens ∧
          g.Takes rest tokens last) := by
  rw [lex_eq_map_singlePass hg] at h
  obtain ⟨tokens, htokens, rfl⟩ := map_eq_ok.1 h
  rw [Grammar.singlePass] at htokens
  cases hc : g.cutLeading source.toList with
  | none =>
    rw [hc] at htokens
    obtain ⟨last, taken, blank⟩ := exists_takes_of_passes hg htokens
    exact ⟨last, blank, .inl ⟨rfl, taken⟩⟩
  | some cut =>
    obtain ⟨t, rest⟩ := cut
    rw [hc] at htokens
    obtain ⟨more, hmore, rfl⟩ := map_eq_ok.1 htokens
    obtain ⟨last, taken, blank⟩ := exists_takes_of_passes hg hmore
    exact ⟨last, blank, .inr ⟨t, rest, more, rfl, rfl, taken⟩⟩

/-! ## Without directives -/

theorem Grammar.Plain.withoutDirective (hg : g.Plain) : g.withoutDirective.Plain where
  guarded := ⟨hg.guarded.lineComment, hg.guarded.blockComment, hg.guarded.stringMarks,
    hg.guarded.symbolEnds⟩
  symbolEnds := hg.symbolEnds
  delimiters := hg.delimiters

/-- Behind the beginning of a file a directive is nothing special. -/
theorem Grammar.Takes.withoutDirective (h : g.Takes r tokens last) :
    g.withoutDirective.Takes r tokens last := by
  induction h with
  | nil r => exact .nil r
  | token hf _ ih => exact .token hf ih

theorem lex_withoutDirective_of_takes (hg : g.Plain) (h : g.Takes r tokens last)
    (blank : last.all isBlank = true) :
    g.withoutDirective.lex (String.ofList r) = .ok ⟨tokens, .place (byteCount r) []⟩ := by
  have same := h.withoutDirective
  rw [← String.toList_ofList (l := r)] at same
  rw [lex_of_takes hg.withoutDirective rfl same blank, String.toList_ofList]

/-! ## Cutting a source -/

/-- A source that begins with no directive is cut behind the tokens `tokens`. -/
theorem exists_split_of_takes (hg : g.Plain) {source : String}
    (hc : g.cutLeading source.toList = none) (h : g.Takes source.toList tokens rest) :
    ∃ read, source.toList = read ++ rest ∧
      g.ReadsFileTo source.toList tokens (.place (byteCount read) rest) ∧
      g.lex (String.ofList read) = .ok ⟨tokens, .place (byteCount read) []⟩ := by
  obtain ⟨read, hread, taken, -⟩ := h.truncate hg
  obtain ⟨v, hv, reads⟩ := h.readsTo 0
  obtain rfl : v = read := List.append_cancel_right (hv.symm.trans hread)
  have leading := g.run_leadingParser 0 source.toList
  rw [hc] at leading
  rw [hread] at hc
  have hc' := cutLeading_eq_none_of_append hc
  rw [← String.toList_ofList (l := v)] at taken hc'
  refine ⟨v, hread, ⟨none, _, tokens, leading, ?_, rfl⟩, ?_⟩
  · simpa only [Nat.zero_add] using reads
  · rw [lex_of_takes hg hc' taken rfl, String.toList_ofList]

/-- A source that begins with the directive `t` is cut behind it and the tokens `tokens`. -/
theorem exists_split_of_cutLeading (hg : g.Plain) {source : String}
    (hc : g.cutLeading source.toList = some (t, r)) (h : g.Takes r tokens rest) :
    ∃ read, source.toList = read ++ rest ∧
      g.ReadsFileTo source.toList (t :: tokens) (.place (byteCount read) rest) ∧
      g.lex (String.ofList read) = .ok ⟨t :: tokens, .place (byteCount read) []⟩ := by
  obtain ⟨v, hv, taken, -⟩ := h.truncate hg
  obtain ⟨v', hv', reads⟩ := h.readsTo (0 + byteCount t.text.toList)
  obtain rfl : v' = v := List.append_cancel_right (hv'.symm.trans hv)
  have leading := g.run_leadingParser 0 source.toList
  rw [hc] at leading
  have hc' := cutLeading_text hc v'
  rw [← String.toList_ofList (l := t.text.toList ++ v')] at hc'
  refine ⟨t.text.toList ++ v', ?_, ⟨some t, _, tokens, leading, ?_, rfl⟩, ?_⟩
  · rw [← cutLeading_append hc, hv, List.append_assoc]
  · simpa only [Nat.zero_add, byteCount_append] using reads
  · rw [lex_of_cutLeading hg hc' taken rfl, String.toList_ofList]

/-- **A source is cut between any two of its tokens.** The text up to the end of the token with the
number `k`, which is where the parsers are once they have read so many tokens, lexes to these
tokens; and the text from there on lexes to the others, if no directive is looked for. Nothing of
either text is unmatched. Both tables are plain. -/
theorem lex_splits :
    Grammar.cLike.Plain ∧ Grammar.pythonLike.Plain ∧
    ∀ g : Grammar, g.Plain → ∀ (source : String) (l : Lexed), g.lex source = .ok l →
      ∀ k, 1 ≤ k → k ≤ l.tokens.length →
        ∃ read rest before behind, source.toList = read ++ rest ∧
          g.ReadsFileTo source.toList (l.tokens.take k) (.place (byteCount read) rest) ∧
          g.lex (String.ofList read) = .ok before ∧
          before.tokens = l.tokens.take k ∧ before.unmatched? = none ∧
          g.withoutDirective.lex (String.ofList rest) = .ok behind ∧
          behind.tokens = l.tokens.drop k ∧ behind.unmatched? = none := by
  refine ⟨plain_cLike, plain_pythonLike, fun g hg source l h k hk _ => ?_⟩
  obtain ⟨last, blank, ⟨hc, taken⟩ | ⟨t, r, tokens, hc, htokens, taken⟩⟩ :=
    exists_takes_of_lex hg h
  · rw [← List.take_append_drop k l.tokens] at taken
    obtain ⟨rest, first, others⟩ := taken.split
    obtain ⟨read, hread, reads, lexed⟩ := exists_split_of_takes hg hc first
    exact ⟨read, rest, _, _, hread, reads, lexed, rfl, rfl,
      lex_withoutDirective_of_takes hg others blank, rfl, rfl⟩
  · -- The directive is the first of the tokens, and before any place where the source is cut.
    obtain ⟨k, rfl⟩ := Nat.exists_eq_add_of_le' hk
    rw [← List.take_append_drop k tokens] at taken
    obtain ⟨rest, first, others⟩ := taken.split
    obtain ⟨read, hread, reads, lexed⟩ := exists_split_of_cutLeading hg hc first
    rw [htokens]
    exact ⟨read, rest, _, _, hread, reads, lexed, rfl, rfl,
      lex_withoutDirective_of_takes hg others blank, rfl, rfl⟩

/-- A directive, a string with marks, and a name of marks before what looks like another. Behind the
third token a `#!` line begins nothing but a comment. -/
theorem lex_splits_directive :
    let source := "#!p\nrf\"é\"f #!q\n"
    let l : Lexed := ⟨[⟨.instruction, "#!p\n"⟩, ⟨.text, "rf\"é\""⟩, ⟨.symbol, "f"⟩,
      ⟨.text, "#!q\n"⟩], .place 16 []⟩
    Grammar.pythonLike.lex source = .ok l ∧
      ∃ read rest before behind, source.toList = read ++ rest ∧
        Grammar.pythonLike.ReadsFileTo source.toList (l.tokens.take 3)
          (.place (byteCount read) rest) ∧
        Grammar.pythonLike.lex (String.ofList read) = .ok before ∧
        before.tokens = l.tokens.take 3 ∧ before.unmatched? = none ∧
        Grammar.pythonLike.withoutDirective.lex (String.ofList rest) = .ok behind ∧
        behind.tokens = l.tokens.drop 3 ∧ behind.unmatched? = none := by
  intro source l
  have lexed : Grammar.pythonLike.lex source = .ok l := by
    decide +kernel
  exact ⟨lexed, lex_splits.2.2 _ plain_pythonLike source l lexed 3 (by decide) (by decide)⟩

end Corpus
