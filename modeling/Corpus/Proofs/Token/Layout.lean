import Corpus.Proofs.Token.Scan

/-!
# Tokens over their text

The tokens of a source are stretches of it, in order, and all that stands between them is blank.
`LaidOver` says so of a list of tokens and a text, and it holds of whatever a scan has read
(`lays_scan`): the scan lays each token over the place where it found it, so nothing is to be shown
of the productions but that a token is what was taken.

**What was not read does not begin with a blank** (`headIs_isBlank_of_scan`). A scan never stops
in a gap, so it is a character that stopped it, and not the layout of the file.
-/

set_option autoImplicit false

namespace Corpus

open Corpus.Parse Corpus.Parse.Parser Corpus.Text

/-- The text is the tokens one after the other, with blanks, or nothing, before each and behind the
last. -/
inductive LaidOver : List Token → List Char → Prop where
  | blanks {gap : List Char} (hgap : gap.all isBlank = true) : LaidOver [] gap
  | token {gap : List Char} {t : Token} {tokens : List Token} {text : List Char}
      (hgap : gap.all isBlank = true) (h : LaidOver tokens text) :
      LaidOver (t :: tokens) (gap ++ t.text.toList ++ text)

namespace LaidOver

variable {tokens : List Token} {text gap : List Char}

theorem nil : LaidOver [] [] := .blanks rfl

theorem append_blanks (h : LaidOver tokens text) (hgap : gap.all isBlank = true) :
    LaidOver tokens (text ++ gap) := by
  induction h with
  | blanks hlast =>
    refine .blanks ?_
    rw [List.all_append, hlast, hgap]
    rfl
  | token hfirst _ ih =>
    rw [List.append_assoc]
    exact .token hfirst ih

end LaidOver

theorem all_isBlank_takeWhile (r : List Char) : (r.takeWhile isBlank).all isBlank = true :=
  List.all_takeWhile

/-! ## Scans lay their tokens -/

/-- A scan of the text `r` that has laid its tokens over what it read. -/
def Scan.LaysOver (r : List Char) : Scan → Prop
  | .stopped tokens read rest => read ++ rest = r ∧ LaidOver tokens read
  | .openString tokens read rest => read ++ rest = r ∧ LaidOver tokens read

namespace Scan.LaysOver

variable {s : Scan} {r : List Char}

theorem behind {gap rest : List Char} {t : Token} (hgap : gap.all isBlank = true)
    (hr : gap ++ t.text.toList ++ rest = r) (h : s.LaysOver rest) :
    (s.behind gap t).LaysOver r := by
  subst hr
  cases s with
  | stopped tokens read left =>
    obtain ⟨rfl, laid⟩ := h
    exact ⟨List.append_assoc .., .token hgap laid⟩
  | openString tokens read left =>
    obtain ⟨rfl, laid⟩ := h
    exact ⟨List.append_assoc .., .token hgap laid⟩

theorem passBlanks (h : s.LaysOver r) : s.passBlanks.LaysOver r := by
  cases s with
  | stopped tokens read rest =>
    obtain ⟨rfl, laid⟩ := h
    refine ⟨?_, laid.append_blanks (all_isBlank_takeWhile rest)⟩
    rw [List.append_assoc, List.takeWhile_append_dropWhile]
  | openString => exact h

end Scan.LaysOver

variable (g : Grammar)

theorem lays_rounds (r : List Char) : (g.rounds r).LaysOver r := by
  fun_induction Grammar.rounds g r with
  | case1 r t rest hf _ ih => exact ih.behind (all_isBlank_takeWhile r) (front_behind_blanks hf)
  | case2 => exact ⟨rfl, .nil⟩
  | case3 r => exact ⟨List.takeWhile_append_dropWhile, .blanks (all_isBlank_takeWhile r)⟩
  | case4 => exact ⟨rfl, .nil⟩

theorem lays_scanBody (r : List Char) : (g.scanBody r).LaysOver r := by
  unfold Grammar.scanBody
  split
  · rename_i t rest hf
    have laid := (lays_rounds g rest).behind (all_isBlank_takeWhile r) (front_behind_blanks hf)
    exact laid.passBlanks
  · exact ⟨List.takeWhile_append_dropWhile, .blanks (all_isBlank_takeWhile r)⟩
  · exact ⟨List.takeWhile_append_dropWhile, .blanks (all_isBlank_takeWhile r)⟩

variable {g}

theorem category_of_cutLeading {r rest : List Char} {t : Token}
    (h : g.cutLeading r = some (t, rest)) : g.hasDirective = true ∧ t.category = .instruction := by
  unfold Grammar.cutLeading at h
  split at h
  · rename_i directive
    obtain ⟨_, -, rfl⟩ := Token.ofCut_eq_some.1 h
    exact ⟨directive, rfl⟩
  · cases h

variable (g)

theorem lays_scan (r : List Char) : (g.scan r).LaysOver r := by
  unfold Grammar.scan
  split
  · rename_i t rest hc
    exact (lays_scanBody g rest).behind rfl (cutLeading_append hc)
  · exact lays_scanBody g r

/-! ## What a scan finds -/

/-- A scan whose tokens all have a property. -/
def Scan.Finds (P : Token → Prop) : Scan → Prop
  | .stopped tokens _ _ => ∀ t ∈ tokens, P t
  | .openString tokens _ _ => ∀ t ∈ tokens, P t

namespace Scan.Finds

variable {P : Token → Prop} {s : Scan}

theorem behind (h : s.Finds P) (gap : List Char) {t : Token} (ht : P t) :
    (s.behind gap t).Finds P := by
  cases s with
  | stopped tokens read rest => exact List.forall_mem_cons.2 ⟨ht, h⟩
  | openString tokens read rest => exact List.forall_mem_cons.2 ⟨ht, h⟩

theorem passBlanks (h : s.Finds P) : s.passBlanks.Finds P := by
  cases s <;> exact h

end Scan.Finds

section

variable {P : Token → Prop}
  (found : ∀ {r : List Char} {t : Token} {rest : List Char},
    g.front (r.dropWhile isBlank) = .token t rest → P t)

include found

theorem finds_rounds (r : List Char) : (g.rounds r).Finds P := by
  fun_induction Grammar.rounds g r with
  | case1 r t rest hf _ ih => exact ih.behind _ (found hf)
  | case2 => exact List.forall_mem_nil _
  | case3 => exact List.forall_mem_nil _
  | case4 => exact List.forall_mem_nil _

/-- What holds of every token in front of a text without blanks before it, holds of all. -/
theorem finds_scanBody (r : List Char) : (g.scanBody r).Finds P := by
  unfold Grammar.scanBody
  split
  · rename_i t rest hf
    exact ((finds_rounds g found rest).behind _ (found hf)).passBlanks
  · exact List.forall_mem_nil _
  · exact List.forall_mem_nil _

end

/-! ## Where a scan stops -/

/-- A scan that was not left in a gap. -/
def Scan.PastBlanks : Scan → Prop
  | .stopped _ _ rest => headIs isBlank rest = false
  | .openString .. => True

theorem Scan.PastBlanks.behind {s : Scan} (h : s.PastBlanks) (gap : List Char) (t : Token) :
    (s.behind gap t).PastBlanks := by
  cases s <;> exact h

theorem Scan.pastBlanks_passBlanks (s : Scan) : s.passBlanks.PastBlanks := by
  cases s with
  | stopped tokens read rest => exact headIs_dropWhile isBlank rest
  | openString => trivial

theorem pastBlanks_scanBody (r : List Char) : (g.scanBody r).PastBlanks := by
  unfold Grammar.scanBody
  split
  · exact Scan.pastBlanks_passBlanks _
  · trivial
  · exact headIs_dropWhile isBlank r

theorem pastBlanks_scan (r : List Char) : (g.scan r).PastBlanks := by
  unfold Grammar.scan
  split
  · rename_i t rest _
    exact (pastBlanks_scanBody g rest).behind [] t
  · exact pastBlanks_scanBody g r

/-! ## The tokens of a source -/

variable {g}

theorem exists_scan_of_lex {source : String} {l : Lexed} (h : g.lex source = .ok l) :
    ∃ read rest, g.scan source.toList = .stopped l.tokens read rest ∧
      l.stop = .place (byteCount read) rest := by
  rw [Grammar.lex_eq_scan] at h
  cases hs : g.scan source.toList with
  | stopped tokens read rest =>
    rw [hs] at h
    cases h
    exact ⟨read, rest, rfl, rfl⟩
  | openString tokens read rest =>
    rw [hs] at h
    cases h

theorem unmatched?_eq {source : String} {l : Lexed} {read rest : List Char}
    (hread : read ++ rest = source.toList) (hstop : l.stop = .place (byteCount read) rest) :
    l.unmatched? =
      if rest = [] then none
      else some (byteCount source.toList - byteCount rest, byteCount rest) := by
  have offset : byteCount source.toList - byteCount rest = byteCount read := by
    rw [← hread, byteCount_append, Nat.add_sub_cancel]
  rw [offset]
  simp [Lexed.unmatched?, hstop]

/-- **The tokens of a source are laid over it, up to a rest that does not begin with a blank.** If
there is such a rest, it is what is told to be unmatched: the bytes before it and its own. -/
theorem lex_laidOver {source : String} {l : Lexed} (h : g.lex source = .ok l) :
    ∃ read rest, source.toList = read ++ rest ∧ LaidOver l.tokens read ∧
      headIs isBlank rest = false ∧
      l.unmatched? =
        if rest = [] then none
        else some (byteCount source.toList - byteCount rest, byteCount rest) := by
  obtain ⟨read, rest, hs, hstop⟩ := exists_scan_of_lex h
  have lays := lays_scan g source.toList
  have past := pastBlanks_scan g source.toList
  rw [hs] at lays past
  obtain ⟨hread, laid⟩ := lays
  exact ⟨read, rest, hread.symm, laid, past, unmatched?_eq hread hstop⟩

/-- A table whose dollar sign ends a run of symbols and begins nothing. -/
def Grammar.dollarEnds : Grammar :=
  { Grammar.cLike with symbolEnds := ["$"] }

/-- A text that is not read to its end. -/
theorem lex_laidOver_dollarEnds :
    Grammar.dollarEnds.lex " é+\n$ 1" =
        .ok ⟨[⟨.word, "é"⟩, ⟨.symbol, "+"⟩], .place 5 ['$', ' ', '1']⟩ ∧
      ∃ read rest, " é+\n$ 1".toList = read ++ rest ∧
        LaidOver [⟨.word, "é"⟩, ⟨.symbol, "+"⟩] read ∧ headIs isBlank rest = false ∧
        some (5, 3) =
          if rest = [] then none
          else some (byteCount " é+\n$ 1".toList - byteCount rest, byteCount rest) := by
  have lexed : Grammar.dollarEnds.lex " é+\n$ 1" =
      .ok ⟨[⟨.word, "é"⟩, ⟨.symbol, "+"⟩], .place 5 ['$', ' ', '1']⟩ := by
    decide +kernel
  exact ⟨lexed, lex_laidOver lexed⟩

end Corpus
