import Corpus.Proofs.Token.Layout
import Mathlib.Data.List.TakeWhile

/-!
# Tables that read every source to its end

Whatever ends a run of symbols has to be something that a token begins with, or the lexing stops
there and the rest of the file is lost. `Grammar.Guarded` asks a table for just that: that each of
its ends begins like a string literal or a comment does. Both tables of `Token/Grammar.lean` are
guarded.

**Where the table is guarded, no text begins with nothing** (`front_ne_nothing`), blanks apart. So
a scan that stops has passed over all of the source, and the one thing that fails a source is a
string literal that is not closed.

The proof goes through the productions from the last to the first. A name that is refused is what
stands before a string literal, so the string takes it; a run of symbols that is empty has met one
of its ends, and each of them is some later production's beginning.
-/

set_option autoImplicit false

namespace Corpus

open Corpus.Parse Corpus.Parse.Parser Corpus.Text

/-- A table whose productions take up all that ends a run of symbols. -/
structure Grammar.Guarded (g : Grammar) : Prop where
  lineComment : g.lineComment.toList ≠ []
  blockComment : ∀ comment ∈ g.blockComment?, comment.1.toList ≠ []
  stringMarks : '"' ∉ g.stringMarks.toList
  symbolEnds : ∀ opener ∈ g.symbolEnds,
    quote.toList <+: opener.toList ∨ g.lineComment.toList <+: opener.toList ∨
      ∃ comment ∈ g.blockComment?, comment.1.toList <+: opener.toList

theorem guarded_cLike : Grammar.cLike.Guarded where
  lineComment := by decide
  blockComment := by
    rintro _ ⟨⟩
    decide
  stringMarks := by decide
  symbolEnds := by decide

theorem guarded_pythonLike : Grammar.pythonLike.Guarded where
  lineComment := by decide
  blockComment := by
    rintro _ ⟨⟩
  stringMarks := by decide
  symbolEnds := by decide

variable {g : Grammar}

/-! ## What is taken is not empty -/

theorem ofCut_ne_nil {category : Category} {cut : Option (List Char × List Char)} {t : Token}
    {rest : List Char} (hc : ∀ {text rest}, cut = some (text, rest) → text ≠ [])
    (h : Token.ofCut category cut = some (t, rest)) : t.text.toList ≠ [] := by
  obtain ⟨text, ht, rfl⟩ := Token.ofCut_eq_some.1 h
  rw [Token.toList_ofChars]
  exact hc ht

theorem nonempty_ne_nil {cut : List Char × List Char} {text rest : List Char}
    (h : nonempty cut = some (text, rest)) : text ≠ [] :=
  (nonempty_eq_some.1 h).2

theorem cutComment_ne_nil {opener closer r text rest : List Char} (ho : opener ≠ [])
    (h : cutComment opener closer r = some (text, rest)) : text ≠ [] := by
  obtain ⟨⟨_, body⟩, _, he⟩ := Option.map_eq_some_iff.1 h
  obtain ⟨rfl, rfl⟩ := Prod.mk.inj he
  exact List.append_ne_nil_of_left_ne_nil ho _

theorem cutCharLiteral_ne_nil {r text rest : List Char}
    (h : cutCharLiteral r = some (text, rest)) : text ≠ [] := by
  unfold cutCharLiteral at h
  split at h
  · cases h
    exact List.cons_ne_nil _ _
  · split at h
    · cases h
    · cases h
      exact List.cons_ne_nil _ _
  · cases h

theorem frontBody_ne_nil {opener body rest : List Char} {delimiter : String} {t : Token}
    (ho : opener ≠ []) (h : g.frontBody opener delimiter body = .token t rest) :
    t.text.toList ≠ [] := by
  unfold Grammar.frontBody at h
  split at h
  · cases h
    rw [Token.toList_ofChars]
    exact List.append_ne_nil_of_left_ne_nil ho _
  · cases h

theorem frontString_ne_nil {r rest : List Char} {t : Token}
    (h : g.frontString r = .token t rest) : t.text.toList ≠ [] := by
  unfold Grammar.frontString Grammar.frontMarked at h
  split at h
  · rename_i _ _ hc
    obtain ⟨rfl, -⟩ := cutText_eq_some.1 hc
    exact frontBody_ne_nil (List.append_ne_nil_of_right_ne_nil _ (List.cons_ne_nil _ _)) h
  · split at h
    · rename_i _ _ hc
      obtain ⟨rfl, -⟩ := cutText_eq_some.1 hc
      exact frontBody_ne_nil (List.append_ne_nil_of_right_ne_nil _ (List.cons_ne_nil _ _)) h
    · cases h

/-- A token is empty only if it is a comment with an empty opener. -/
theorem front_ne_nil (hg : g.Guarded) {r rest : List Char} {t : Token}
    (h : g.front r = .token t rest) : t.text.toList ≠ [] := by
  rcases Front.ofCut_eq_token h with h | h
  · exact ofCut_ne_nil nonempty_ne_nil h
  rcases Front.ofCut_eq_token h with h | h
  · unfold Grammar.cutName at h
    split at h
    · cases h
    · exact ofCut_ne_nil nonempty_ne_nil h
  rcases Front.ofCut_eq_token h with h | h
  · exact ofCut_ne_nil nonempty_ne_nil h
  rcases Front.ofCut_eq_token h with h | h
  · exact ofCut_ne_nil (cutComment_ne_nil hg.lineComment) h
  rcases Front.ofCut_eq_token h with h | h
  · unfold Grammar.cutBlockComment at h
    split at h
    · rename_i opener closer hb
      exact ofCut_ne_nil (cutComment_ne_nil (hg.blockComment _ hb)) h
    · cases h
  rcases Front.ofCut_eq_token h with h | h
  · exact ofCut_ne_nil cutCharLiteral_ne_nil h
  exact frontString_ne_nil h

theorem allBlank_of_front (hg : g.Guarded) {r rest : List Char} {t : Token}
    (h : g.front (r.dropWhile isBlank) = .token t rest) : allBlank t.text = false := by
  have passed := headIs_dropWhile isBlank r
  obtain ⟨x, text, ht⟩ := List.exists_cons_of_ne_nil (front_ne_nil hg h)
  rw [← Grammar.front_eq_token h, ht] at passed
  have hx : isBlank x = false := passed
  unfold allBlank
  rw [ht, List.all_cons, hx, Bool.false_and]

/-! ## Something is taken -/

theorem Front.ofCut_eq_nothing {cut : Option (Token × List Char)} {otherwise : Front}
    (h : Front.ofCut cut otherwise = .nothing) : cut = none ∧ otherwise = .nothing := by
  unfold Front.ofCut at h
  split at h
  · cases h
  · exact ⟨rfl, h⟩

theorem frontBody_ne_nothing (opener body : List Char) (delimiter : String) :
    g.frontBody opener delimiter body ≠ .nothing := by
  unfold Grammar.frontBody
  split <;> exact Front.noConfusion

theorem all_of_marksString {name : List Char} (h : g.marksString name = true) :
    name.all g.stringMarks.toList.contains = true := by
  unfold Grammar.marksString at h
  exact (Bool.and_eq_true _ _ |>.mp h).2

theorem frontString_marks {marks r : List Char}
    (hm : marks.all g.stringMarks.toList.contains = true) (hq : '"' ∉ g.stringMarks.toList)
    (hr : quote.toList <+: r) : g.frontString (marks ++ r) = g.frontMarked marks r := by
  obtain ⟨body, rfl⟩ := hr
  -- The quotation mark is no mark, so the marks end before it.
  have hq' : headIs g.stringMarks.toList.contains (quote.toList ++ body) = false := by
    show g.stringMarks.toList.contains '"' = false
    simpa using hq
  have hmarks : ∀ x ∈ marks, g.stringMarks.toList.contains x = true := by simpa using hm
  unfold Grammar.frontString
  rw [List.takeWhile_append_of_pos hmarks, List.dropWhile_append_of_pos hmarks,
    takeWhile_of_headIs hq', dropWhile_of_headIs hq', List.append_nil]

theorem frontMarked_ne_nothing (marks : List Char) {r : List Char} (hr : quote.toList <+: r) :
    g.frontMarked marks r ≠ .nothing := by
  obtain ⟨body, rfl⟩ := hr
  unfold Grammar.frontMarked
  rw [cutText_append]
  split
  · exact frontBody_ne_nothing _ _ _
  · exact frontBody_ne_nothing _ _ _

theorem frontString_of_quote {r : List Char} (hq : '"' ∉ g.stringMarks.toList)
    (hr : quote.toList <+: r) : g.frontString r = g.frontMarked [] r := by
  have noMarks : ([] : List Char).all g.stringMarks.toList.contains = true := rfl
  exact frontString_marks noMarks hq hr

theorem frontString_ne_nothing {marks r : List Char}
    (hm : marks.all g.stringMarks.toList.contains = true) (hq : '"' ∉ g.stringMarks.toList)
    (hr : quote.toList <+: r) : g.frontString (marks ++ r) ≠ .nothing := by
  rw [frontString_marks hm hq hr]
  exact frontMarked_ne_nothing marks hr

theorem cutComment_ne_none {opener closer r : List Char} (h : opener <+: r) :
    cutComment opener closer r ≠ none := by
  obtain ⟨body, rfl⟩ := h
  simp [cutComment, cutText_append]

/-- A text that does not begin with a blank begins with a token or an open string. -/
theorem front_ne_nothing (hg : g.Guarded) {x : Char} {r : List Char} (hx : isBlank x = false) :
    g.front (x :: r) ≠ .nothing := by
  intro h
  obtain ⟨-, h⟩ := Front.ofCut_eq_nothing h
  obtain ⟨hname, h⟩ := Front.ofCut_eq_nothing h
  obtain ⟨hsymbols, h⟩ := Front.ofCut_eq_nothing h
  obtain ⟨hline, h⟩ := Front.ofCut_eq_nothing h
  obtain ⟨hblock, h⟩ := Front.ofCut_eq_nothing h
  obtain ⟨hchar, hstring⟩ := Front.ofCut_eq_nothing h
  unfold Grammar.cutName at hname
  split at hname
  · -- The name is refused, so it consists of marks of the string behind it.
    rename_i refused
    obtain ⟨hm, hq⟩ := refused
    refine frontString_ne_nothing (all_of_marksString hm) hg.stringMarks hq ?_
    rw [List.takeWhile_append_dropWhile]
    exact hstring
  · -- No name begins here and no symbol, so something does at which runs of symbols end.
    rw [Token.ofCut_eq_none, nonempty_eq_none] at hname
    unfold Grammar.cutSymbols at hsymbols
    rw [Token.ofCut_eq_none, nonempty_eq_none, takeUntil_eq_nil_iff] at hsymbols
    have hx' : g.isNameChar x = false := by
      by_contra hx'
      rw [List.takeWhile_cons_of_pos (by simpa using hx')] at hname
      cases hname
    unfold Grammar.endsSymbols at hsymbols
    rw [headIs_cons, headIs_cons, hx, hx', Bool.or_false, Bool.or_false,
      Token.ofCut_eq_none.1 hchar, Option.isSome_none, Bool.or_false, List.any_eq_true] at hsymbols
    obtain ⟨opener, hmem, hopener⟩ := hsymbols
    have ahead := List.isPrefixOf_iff_prefix.1 hopener
    rcases hg.symbolEnds opener hmem with hq | hl | ⟨⟨open_, close⟩, hb, ho⟩
    · rw [frontString_of_quote hg.stringMarks (hq.trans ahead)] at hstring
      exact frontMarked_ne_nothing [] (hq.trans ahead) hstring
    · exact cutComment_ne_none (hl.trans ahead) (Token.ofCut_eq_none.1 hline)
    · unfold Grammar.cutBlockComment at hblock
      rw [Option.mem_def.1 hb] at hblock
      exact cutComment_ne_none (ho.trans ahead) (Token.ofCut_eq_none.1 hblock)

/-! ## Whole sources -/

/-- A scan that has left nothing but blanks. -/
def Scan.LeavesBlanks : Scan → Prop
  | .stopped _ _ rest => rest.all isBlank = true
  | .openString .. => True

namespace Scan.LeavesBlanks

variable {s : Scan}

theorem behind (h : s.LeavesBlanks) (gap : List Char) (t : Token) :
    (s.behind gap t).LeavesBlanks := by
  cases s <;> exact h

theorem passBlanks (h : s.LeavesBlanks) : s.passBlanks.LeavesBlanks := by
  cases s with
  | stopped tokens read rest =>
    have hrest : ∀ x ∈ rest, isBlank x = true := List.all_eq_true.1 h
    show (rest.dropWhile isBlank).all isBlank = true
    rw [List.dropWhile_eq_nil_iff.2 hrest]
    rfl
  | openString => trivial

end Scan.LeavesBlanks

theorem all_isBlank_of_front_eq_nothing (hg : g.Guarded) {r : List Char}
    (h : g.front (r.dropWhile isBlank) = .nothing) : r.all isBlank = true := by
  have passed := headIs_dropWhile isBlank r
  cases hd : r.dropWhile isBlank with
  | nil => exact List.all_eq_true.2 (List.dropWhile_eq_nil_iff.1 hd)
  | cons x rest =>
    rw [hd] at passed h
    exact absurd h (front_ne_nothing hg passed)

theorem leavesBlanks_rounds (hg : g.Guarded) (r : List Char) : (g.rounds r).LeavesBlanks := by
  fun_induction Grammar.rounds g r with
  | case1 r t rest hf _ ih => exact ih.behind _ t
  | case2 r t rest hf stuck =>
    -- The token is not empty, so there is less behind it.
    have hr := congrArg byteCount (front_behind_blanks hf)
    have pos := byteCount_pos (front_ne_nil hg hf)
    rw [byteCount_append, byteCount_append] at hr
    omega
  | case3 => trivial
  | case4 r hf => exact all_isBlank_of_front_eq_nothing hg hf

theorem leavesBlanks_scanBody (hg : g.Guarded) (r : List Char) : (g.scanBody r).LeavesBlanks := by
  unfold Grammar.scanBody
  split
  · rename_i t rest _
    exact ((leavesBlanks_rounds hg rest).behind _ t).passBlanks
  · trivial
  · rename_i hf
    show (r.dropWhile isBlank).all isBlank = true
    rw [List.dropWhile_eq_nil_iff.2 (List.all_eq_true.1 (all_isBlank_of_front_eq_nothing hg hf))]
    rfl

theorem leavesBlanks_scan (hg : g.Guarded) (r : List Char) : (g.scan r).LeavesBlanks := by
  unfold Grammar.scan
  split
  · rename_i t rest _
    exact (leavesBlanks_scanBody hg rest).behind [] t
  · exact leavesBlanks_scanBody hg r

/-- A scan that stops has read everything. -/
theorem scan_eq_stopped (hg : g.Guarded) {r read rest : List Char} {tokens : List Token}
    (h : g.scan r = .stopped tokens read rest) : read = r ∧ rest = [] := by
  have lays := lays_scan g r
  have past := pastBlanks_scan g r
  have blanks := leavesBlanks_scan hg r
  rw [h] at lays past blanks
  -- What is left begins with no blank and holds nothing else.
  cases rest with
  | nil =>
    obtain ⟨hread, -⟩ := lays
    rw [List.append_nil] at hread
    exact ⟨hread, rfl⟩
  | cons x rest =>
    have hx : isBlank x = true := List.all_eq_true.1 blanks x (List.mem_cons_self ..)
    exact absurd hx (ne_true_of_eq_false past)

/-- **With a guarded table a source is read to its end, unless a string literal is not closed.**
Both tables are guarded. -/
theorem lex_reads_all :
    Grammar.cLike.Guarded ∧ Grammar.pythonLike.Guarded ∧
    ∀ g : Grammar, g.Guarded → ∀ source : String,
      (∃ opened, g.lex source =
        .error ⟨.unterminatedString opened, byteCount source.toList⟩) ∨
      ∃ l, g.lex source = .ok l ∧ l.stop = .place (byteCount source.toList) [] ∧
        l.unmatched? = none := by
  refine ⟨guarded_cLike, guarded_pythonLike, ?_⟩
  intro g hg source
  rw [Grammar.lex_eq_scan]
  cases hs : g.scan source.toList with
  | openString tokens read rest => exact .inl ⟨byteCount read, rfl⟩
  | stopped tokens read rest =>
    obtain ⟨rfl, rfl⟩ := scan_eq_stopped hg hs
    exact .inr ⟨_, rfl, rfl, rfl⟩

theorem lex_reads_all_pythonLike :
    Grammar.pythonLike.Guarded ∧
      ∃ l, Grammar.pythonLike.lex "#!é\nf\"'\"#" = .ok l ∧ l.stop = .place 10 [] ∧
        l.unmatched? = none := by
  refine ⟨guarded_pythonLike, ?_⟩
  have lexed : Grammar.pythonLike.lex "#!é\nf\"'\"#" =
      .ok ⟨[⟨.instruction, "#!é\n"⟩, ⟨.text, "f\"'\""⟩, ⟨.text, "#"⟩], .place 10 []⟩ := by
    decide +kernel
  rcases lex_reads_all.2.2 _ guarded_pythonLike "#!é\nf\"'\"#" with ⟨opened, failed⟩ | read
  · rw [lexed] at failed
    cases failed
  · exact read

end Corpus
