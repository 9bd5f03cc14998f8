import Corpus.Proofs.Token.Complete

/-!
# Lexing in a single pass

The productions are tried one after the other, and a failed one is undone. For the tables at hand
none of this is needed: the next character tells which production it will be. `Grammar.lexeme` is
the lexer that one would write by hand from the description of the languages, one branch for each
kind of character, and `Grammar.passes` goes through a text with it, forwards only. **It finds what
the productions find** (`lex_eq_singlePass`), failures included.

What makes a table fit for this is said by `Grammar.Plain`. No delimiter begins like a name does,
so a name and what follows it never compete; and a run of symbols ends exactly where a string or a
comment begins. The one place where two characters have to be looked at together is a name of
string marks before a quotation mark.
-/

set_option autoImplicit false

namespace Corpus

open Corpus.Parse Corpus.Parse.Parser Corpus.Text

/-! ## The lexer -/

namespace Grammar

variable (g : Grammar)

/-- What opens the comments of a language. -/
def openers : List String :=
  g.lineComment :: g.blockComment?.toList.map Prod.fst

/-- Whether a run of symbols goes no further: a blank comes next, a name, a string, a comment or a
character literal. -/
def stops (r : List Char) : Bool :=
  headIs isBlank r || headIs g.isNameChar r || headIs (· == '"') r ||
    g.openers.any (·.toList.isPrefixOf r) || (cutCharLiteral r).isSome

/-- The comment that comes next: to the end of its line, or through its closer. -/
def commentAhead (r : List Char) : Option (List Char × List Char) :=
  if g.lineComment.toList <+: r then cutComment g.lineComment.toList ['\n'] r
  else
    match g.blockComment? with
    | some (opener, closer) => cutComment opener.toList closer.toList r
    | none => none

/-- The string literal with these marks, from its first quotation mark on. Three of them open it if
there are three, and else one. There is no such literal if it is not closed. -/
def stringAhead (marks : List Char) : List Char → Option Token
  | '"' :: '"' :: '"' :: r => (cutBody ['"', '"', '"'] r).map fun (body, _) =>
    .ofChars g.stringCategory (marks ++ '"' :: '"' :: '"' :: body)
  | r => (cutBody ['"'] r.tail).map fun (body, _) =>
    .ofChars g.stringCategory (marks ++ '"' :: body)

/-- The token that begins with the character `x` and goes on in `r`. It is missing only if it is a
string literal that is not closed. -/
def lexeme (x : Char) (r : List Char) : Option Token :=
  if x.isDigit then some (.ofChars g.nameCategory (x :: r.takeWhile Char.isDigit))
  else if g.isNameChar x then
    let run := x :: r.takeWhile g.isNameChar
    let rest := r.dropWhile g.isNameChar
    if g.marksString run && headIs (· == '"') rest then g.stringAhead run rest
    else some (.ofChars g.nameCategory run)
  else
    match g.commentAhead (x :: r), cutCharLiteral (x :: r) with
    | some (text, _), _ => some (.ofChars .text text)
    | none, some (text, _) => some (.ofChars .literal text)
    | none, none =>
      if x = '"' then g.stringAhead [] (x :: r)
      else some (.ofChars .symbol (x :: (takeUntil g.stops r).1))

/-- The tokens of a text with so many bytes before it. -/
def passes (o : Nat) : List Char → Except Failure (List Token)
  | [] => .ok []
  | x :: r =>
    if isBlank x then passes (o + x.utf8Size) r
    else
      match g.lexeme x r with
      | some t =>
        (passes (o + byteCount t.text.toList) (r.drop (t.text.toList.length - 1))).map (t :: ·)
      | none => .error ⟨.unterminatedString o, o + byteCount (x :: r)⟩
termination_by r => r.length
decreasing_by all_goals simp only [List.length_drop, List.length_cons]; omega

/-- The tokens of a source. Its directive comes before all else. -/
def singlePass (source : String) : Except Failure (List Token) :=
  match g.cutLeading source.toList with
  | some (t, rest) => (g.passes (byteCount t.text.toList) rest).map (t :: ·)
  | none => g.passes 0 source.toList

/-- A table whose tokens can be told by their first character. -/
structure Plain : Prop where
  guarded : g.Guarded
  symbolEnds : g.symbolEnds = quote :: g.openers
  delimiters : ∀ d ∈ "\"" :: "'" :: g.openers, headIs g.isNameChar d.toList = false

end Grammar

theorem plain_cLike : Grammar.cLike.Plain where
  guarded := guarded_cLike
  symbolEnds := rfl
  delimiters := by decide

theorem plain_pythonLike : Grammar.pythonLike.Plain where
  guarded := guarded_pythonLike
  symbolEnds := rfl
  delimiters := by decide

/-! ## The first character decides -/

/-- The token that was found, if one was. -/
def Front.taken : Front → Option Token
  | .token t _ => some t
  | .openString => none
  | .nothing => none

theorem taken_ofCut (cut : Option (Token × List Char)) (otherwise : Front) :
    (Front.ofCut cut otherwise).taken = (cut.map Prod.fst).or otherwise.taken := by
  cases cut <;> rfl

theorem headIs_quote {r : List Char} : headIs (· == '"') r = true ↔ quote.toList <+: r := by
  cases r with
  | nil => exact ⟨Bool.noConfusion, fun h => absurd (List.prefix_nil.1 h) (List.cons_ne_nil _ _)⟩
  | cons x r =>
    rw [headIs_cons, beq_iff_eq]
    constructor
    · rintro rfl
      exact List.prefix_append ['"'] r
    · exact fun h => (List.cons_prefix_cons.1 h).1.symm

variable {g : Grammar} {x : Char} {r : List Char}

theorem cutNumber_of_digit (hx : x.isDigit = true) :
    g.cutNumber (x :: r) =
      some (.ofChars g.nameCategory (x :: r.takeWhile Char.isDigit), r.dropWhile Char.isDigit) := by
  unfold Grammar.cutNumber
  rw [List.takeWhile_cons_of_pos hx, List.dropWhile_cons_of_pos hx]
  rfl

theorem cutNumber_of_not_digit (hx : x.isDigit = false) : g.cutNumber (x :: r) = none := by
  unfold Grammar.cutNumber
  rw [List.takeWhile_cons_of_neg (ne_true_of_eq_false hx)]
  rfl

theorem cutName_of_not_nameChar (hx : g.isNameChar x = false) : g.cutName (x :: r) = none := by
  unfold Grammar.cutName
  rw [List.takeWhile_cons_of_neg (ne_true_of_eq_false hx)]
  split <;> rfl

theorem endsSymbols_eq_stops (hg : g.Plain) : g.endsSymbols = g.stops := by
  funext r
  have quoted : quote.toList.isPrefixOf r = headIs (· == '"') r := by
    rw [Bool.eq_iff_iff, headIs_quote, List.isPrefixOf_iff_prefix]
  unfold Grammar.endsSymbols Grammar.stops
  rw [hg.symbolEnds, List.any_cons, quoted]
  ac_rfl

theorem cutSymbols_of_stops (hg : g.Plain) (hs : g.stops (x :: r) = true) :
    g.cutSymbols (x :: r) = none := by
  rw [← endsSymbols_eq_stops hg] at hs
  unfold Grammar.cutSymbols
  rw [Token.ofCut_eq_none, nonempty_eq_none]
  exact takeUntil_eq_nil_iff.2 hs

theorem cutSymbols_of_not_stops (hg : g.Plain) (hs : g.stops (x :: r) = false) :
    g.cutSymbols (x :: r) =
      some (.ofChars .symbol (x :: (takeUntil g.stops r).1), (takeUntil g.stops r).2) := by
  unfold Grammar.cutSymbols
  rw [endsSymbols_eq_stops hg, takeUntil, if_neg (ne_true_of_eq_false hs)]
  rfl

theorem ofCut_commentAhead (r : List Char) :
    Token.ofCut .text (g.commentAhead r) = (g.cutLineComment r).or (g.cutBlockComment r) := by
  unfold Grammar.commentAhead Grammar.cutLineComment Grammar.cutBlockComment
  split
  · rename_i h
    obtain ⟨body, rfl⟩ := h
    simp [cutComment, cutText_append, Token.ofCut]
  · rename_i h
    rw [cutComment, cutText_eq_none.2 h]
    cases g.blockComment? <;> rfl

theorem isSome_cutComment (opener closer r : List Char) :
    (cutComment opener closer r).isSome = opener.isPrefixOf r := by
  unfold cutComment cutText
  rw [Option.isSome_map, Bool.eq_iff_iff, List.isPrefixOf_iff_prefix]
  split <;> simp_all

theorem any_openers (r : List Char) :
    g.openers.any (·.toList.isPrefixOf r) = (g.commentAhead r).isSome := by
  unfold Grammar.commentAhead Grammar.openers
  rw [List.any_cons]
  split
  · rename_i hl
    rw [isSome_cutComment, List.isPrefixOf_iff_prefix.2 hl, Bool.true_or]
  · rename_i hl
    have hl' : g.lineComment.toList.isPrefixOf r = false := by
      simpa [← List.isPrefixOf_iff_prefix] using hl
    rw [hl', Bool.false_or]
    cases g.blockComment? with
    | none => rfl
    | some comment => simp [isSome_cutComment]

theorem cutCharLiteral_eq_none (hx : x ≠ '\'') : cutCharLiteral (x :: r) = none := by
  unfold cutCharLiteral
  split
  · rename_i h
    exact absurd (List.cons.inj h).1 hx
  · rename_i h
    exact absurd (List.cons.inj h).1 hx
  · rfl

/-- From its quotation marks on, a string literal is what the single pass takes. -/
theorem taken_frontMarked (marks : List Char) {r : List Char} (hr : quote.toList <+: r) :
    (g.frontMarked marks r).taken = g.stringAhead marks r := by
  obtain ⟨body, rfl⟩ := hr
  have taken_frontBody (opener : List Char) (delimiter : String) (r : List Char) :
      (g.frontBody opener delimiter r).taken = (cutBody delimiter.toList r).map
        fun (body, _) => .ofChars g.stringCategory (opener ++ body) := by
    unfold Grammar.frontBody
    cases cutBody delimiter.toList r <;> rfl
  unfold Grammar.frontMarked
  -- The longer delimiter first, in both.
  by_cases htriple : tripleQuote.toList <+: quote.toList ++ body
  · obtain ⟨s, hs⟩ := htriple
    rw [← hs, cutText_append]
    simp only [taken_frontBody, List.append_assoc]
    rfl
  · rw [cutText_eq_none.2 htriple, cutText_append]
    simp only [taken_frontBody, List.append_assoc]
    unfold Grammar.stringAhead
    split
    · rename_i s hs
      exact absurd ⟨s, hs.symm⟩ htriple
    · rfl

theorem not_prefix_of_nameChar (hg : g.Plain) (hx : g.isNameChar x = true) {d : String}
    (hd : d ∈ "\"" :: "'" :: g.openers) (hne : d.toList ≠ []) : ¬ d.toList <+: x :: r := by
  intro hp
  have hname := hg.delimiters d hd
  obtain ⟨y, s, hy⟩ := List.exists_cons_of_ne_nil hne
  rw [hy] at hname hp
  rw [← (List.cons_prefix_cons.1 hp).1] at hx
  exact ne_true_of_eq_false hname hx

theorem ne_nil_of_mem_openers (hg : g.Guarded) {d : String} (hd : d ∈ g.openers) :
    d.toList ≠ [] := by
  unfold Grammar.openers at hd
  rcases List.mem_cons.1 hd with rfl | hd
  · exact hg.lineComment
  · obtain ⟨comment, hc, rfl⟩ := List.mem_map.1 hd
    exact hg.blockComment comment (Option.mem_toList.1 hc)

theorem commentAhead_of_nameChar (hg : g.Plain) (hx : g.isNameChar x = true) :
    g.commentAhead (x :: r) = none := by
  rw [← Option.isNone_iff_eq_none, ← Option.not_isSome, ← any_openers, Bool.not_eq_true',
    List.any_eq_false]
  intro d hd hp
  exact not_prefix_of_nameChar hg hx (by simp [hd]) (ne_nil_of_mem_openers hg.guarded hd)
    (List.isPrefixOf_iff_prefix.1 hp)

/-! ## One token -/

theorem taken_front_of_cutName (hnumber : g.cutNumber r = none) (hname : g.cutName r = none) :
    (g.front r).taken =
      ((g.cutSymbols r).map Prod.fst).or
        (((Token.ofCut .text (g.commentAhead r)).map Prod.fst).or
          (((Token.ofCut .literal (cutCharLiteral r)).map Prod.fst).or
            (g.frontString r).taken)) := by
  unfold Grammar.front
  simp only [taken_ofCut, hnumber, hname, Option.map_none, Option.none_or, ofCut_commentAhead,
    Option.map_or, Option.or_assoc]

theorem taken_front_name (hg : g.Plain) (hd : x.isDigit = false) (hx : g.isNameChar x = true) :
    (g.front (x :: r)).taken = g.lexeme x r := by
  have hrun : (x :: r).takeWhile g.isNameChar = x :: r.takeWhile g.isNameChar :=
    List.takeWhile_cons_of_pos hx
  have hrest : (x :: r).dropWhile g.isNameChar = r.dropWhile g.isNameChar :=
    List.dropWhile_cons_of_pos hx
  unfold Grammar.lexeme
  simp only [hd, hx, if_true, if_false, Bool.false_eq_true, Bool.and_eq_true, headIs_quote]
  by_cases refused : g.marksString (x :: r.takeWhile g.isNameChar) = true ∧
      quote.toList <+: r.dropWhile g.isNameChar
  · -- The name belongs to the string behind it, and nothing else begins with its first character.
    rw [if_pos refused]
    obtain ⟨hm, hq⟩ := refused
    have hname : g.cutName (x :: r) = none := by
      unfold Grammar.cutName
      rw [hrun, hrest, if_pos ⟨hm, hq⟩]
    have hstops : g.stops (x :: r) = true := by
      unfold Grammar.stops
      simp [hx]
    have hchar : x ≠ '\'' := by
      rintro rfl
      exact not_prefix_of_nameChar hg hx (d := "'") (by simp) (by decide)
        (List.prefix_append ['\''] r)
    have hstring := frontString_marks (all_of_marksString hm) hg.guarded.stringMarks hq
    rw [List.cons_append, List.takeWhile_append_dropWhile] at hstring
    rw [taken_front_of_cutName (cutNumber_of_not_digit hd) hname, cutSymbols_of_stops hg hstops,
      commentAhead_of_nameChar hg hx, cutCharLiteral_eq_none hchar, hstring]
    exact taken_frontMarked _ hq
  · rw [if_neg refused]
    unfold Grammar.front
    rw [taken_ofCut, cutNumber_of_not_digit hd, taken_ofCut]
    unfold Grammar.cutName
    rw [hrun, hrest, if_neg refused]
    rfl

theorem taken_front_other (hg : g.Plain) (hb : isBlank x = false) (hd : x.isDigit = false)
    (hx : g.isNameChar x = false) : (g.front (x :: r)).taken = g.lexeme x r := by
  have hstops : g.stops (x :: r) =
      (x == '"' || (g.commentAhead (x :: r)).isSome || (cutCharLiteral (x :: r)).isSome) := by
    unfold Grammar.stops
    rw [any_openers, headIs_cons, headIs_cons, headIs_cons, hb, hx]
    rfl
  rw [taken_front_of_cutName (cutNumber_of_not_digit hd) (cutName_of_not_nameChar hx)]
  unfold Grammar.lexeme
  simp only [hd, hx, if_false, Bool.false_eq_true]
  cases hcomment : g.commentAhead (x :: r) with
  | some cut =>
    rw [cutSymbols_of_stops hg (by rw [hstops, hcomment, Option.isSome_some, Bool.or_true,
      Bool.true_or])]
    rfl
  | none =>
    cases hchar : cutCharLiteral (x :: r) with
    | some cut =>
      rw [cutSymbols_of_stops hg (by rw [hstops, hchar, Option.isSome_some, Bool.or_true])]
      rfl
    | none =>
      rw [hcomment, hchar, Option.isSome_none, Bool.or_false, Bool.or_false] at hstops
      by_cases hq : x = '"'
      · subst hq
        have quoted : quote.toList <+: '"' :: r := List.prefix_append ['"'] r
        rw [cutSymbols_of_stops hg hstops, frontString_of_quote hg.guarded.stringMarks quoted]
        exact taken_frontMarked [] quoted
      · rw [beq_false_of_ne hq] at hstops
        rw [cutSymbols_of_not_stops hg hstops, if_neg hq]
        rfl

/-- What begins with a character that is not blank is the lexeme that this character decides. -/
theorem taken_front (hg : g.Plain) (hb : isBlank x = false) :
    (g.front (x :: r)).taken = g.lexeme x r := by
  by_cases hd : x.isDigit = true
  · unfold Grammar.front Grammar.lexeme
    rw [taken_ofCut, cutNumber_of_digit hd, if_pos hd]
    rfl
  · have hd' : x.isDigit = false := by simpa using hd
    by_cases hx : g.isNameChar x = true
    · exact taken_front_name hg hd' hx
    · exact taken_front_other hg hb hd' (by simpa using hx)

/-! ## Whole sources -/

/-- The single pass passes over blanks one by one. -/
theorem passes_dropWhile (o : Nat) (r : List Char) :
    g.passes o r = g.passes (o + byteCount (r.takeWhile isBlank)) (r.dropWhile isBlank) := by
  induction r generalizing o with
  | nil => rfl
  | cons x r ih =>
    by_cases hx : isBlank x = true
    · rw [List.takeWhile_cons_of_pos hx, List.dropWhile_cons_of_pos hx, byteCount_cons,
        ← Nat.add_assoc, ← ih, Grammar.passes, if_pos hx]
    · rw [List.takeWhile_cons_of_neg hx, List.dropWhile_cons_of_neg hx]
      rfl

theorem drop_length_of_front (hg : g.Guarded) {rest : List Char} {t : Token}
    (h : g.front (x :: r) = .token t rest) : r.drop (t.text.toList.length - 1) = rest := by
  have hr := Grammar.front_eq_token h
  obtain ⟨y, s, hy⟩ := List.exists_cons_of_ne_nil (front_ne_nil hg h)
  rw [hy] at hr ⊢
  obtain ⟨-, rfl⟩ := List.cons.inj hr
  exact List.drop_left

theorem front_nil (hg : g.Guarded) : g.front [] = .nothing := by
  cases hf : g.front [] with
  | token t rest =>
    have ht := (List.append_eq_nil_iff.1 (Grammar.front_eq_token hf)).1
    exact absurd ht (front_ne_nil hg hf)
  | openString => exact absurd rfl (Grammar.ne_nil_of_front_eq_openString hf)
  | nothing => rfl

theorem passes_eq (hg : g.Plain) (o : Nat) (r : List Char) :
    g.passes o r =
      match g.front (r.dropWhile isBlank) with
      | .token t rest =>
        (g.passes (o + byteCount (r.takeWhile isBlank ++ t.text.toList)) rest).map (t :: ·)
      | .openString =>
        .error ⟨.unterminatedString (o + byteCount (r.takeWhile isBlank)), o + byteCount r⟩
      | .nothing => .ok [] := by
  rw [passes_dropWhile]
  have passed := headIs_dropWhile isBlank r
  have bytes := byteCount_blanks o r
  cases hd : r.dropWhile isBlank with
  | nil => rw [front_nil hg.guarded, Grammar.passes]
  | cons x s =>
    rw [hd] at passed bytes
    have hx : isBlank x = false := passed
    have taken := taken_front (r := s) hg hx
    have something := front_ne_nothing (r := s) hg.guarded hx
    rw [Grammar.passes, if_neg (ne_true_of_eq_false hx), ← taken, bytes]
    cases hf : g.front (x :: s) with
    | token t rest =>
      simp only [Front.taken, drop_length_of_front hg.guarded hf, byteCount_append,
        ← Nat.add_assoc]
    | openString => rfl
    | nothing => exact absurd hf something

/-- The tokens of a scan of a text with so many bytes before it and in all. -/
def Scan.tokens (o bytes : Nat) : Scan → Except Failure (List Token)
  | .stopped tokens _ _ => .ok tokens
  | .openString _ read _ => .error ⟨.unterminatedString (o + byteCount read), bytes⟩

theorem Scan.tokens_behind (s : Scan) (o bytes : Nat) (gap : List Char) (t : Token) :
    (s.behind gap t).tokens o bytes =
      (s.tokens (o + byteCount (gap ++ t.text.toList)) bytes).map (t :: ·) := by
  cases s with
  | stopped => rfl
  | openString tokens read rest =>
    simp only [Scan.behind, Scan.tokens, byteCount_append, Nat.add_assoc]
    rfl

theorem Scan.tokens_passBlanks (s : Scan) (o bytes : Nat) :
    s.passBlanks.tokens o bytes = s.tokens o bytes := by
  cases s <;> rfl

theorem byteCount_behind {gap rest : List Char} {t : Token} (o : Nat)
    (hr : gap ++ t.text.toList ++ rest = r) :
    o + byteCount (gap ++ t.text.toList) + byteCount rest = o + byteCount r := by
  rw [← hr, byteCount_append (gap ++ t.text.toList), Nat.add_assoc]

theorem passes_eq_rounds (hg : g.Plain) (o : Nat) (r : List Char) :
    g.passes o r = (g.rounds r).tokens o (o + byteCount r) := by
  fun_induction Grammar.rounds g r generalizing o with
  | case1 r t rest hf _ ih =>
    rw [passes_eq hg, hf, Scan.tokens_behind, ← byteCount_behind o (front_behind_blanks hf), ← ih]
  | case2 r t rest hf stuck =>
    -- The token is not empty, so there is less behind it.
    have hr := byteCount_behind 0 (front_behind_blanks hf)
    have pos := byteCount_pos (front_ne_nil hg.guarded hf)
    rw [byteCount_append] at hr
    omega
  | case3 r hf =>
    rw [passes_eq hg, hf]
    rfl
  | case4 r hf =>
    rw [passes_eq hg, hf]
    rfl

theorem passes_eq_scanBody (hg : g.Plain) (o : Nat) (r : List Char) :
    g.passes o r = (g.scanBody r).tokens o (o + byteCount r) := by
  rw [passes_eq hg]
  unfold Grammar.scanBody
  cases hf : g.front (r.dropWhile isBlank) with
  | token t rest =>
    simp only [Scan.tokens_passBlanks, Scan.tokens_behind]
    rw [← byteCount_behind o (front_behind_blanks hf), passes_eq_rounds hg]
  | openString => rfl
  | nothing => rfl

theorem singlePass_eq_scan (hg : g.Plain) (source : String) :
    g.singlePass source = (g.scan source.toList).tokens 0 (byteCount source.toList) := by
  unfold Grammar.singlePass Grammar.scan
  cases hc : g.cutLeading source.toList with
  | none =>
    rw [passes_eq_scanBody hg, Nat.zero_add]
  | some cut =>
    obtain ⟨t, rest⟩ := cut
    have hr : [] ++ t.text.toList ++ rest = source.toList := cutLeading_append hc
    simp only [Scan.tokens_behind]
    rw [← Nat.zero_add (byteCount source.toList), ← byteCount_behind 0 hr,
      ← passes_eq_scanBody hg, Nat.zero_add, List.nil_append]

theorem result_scan (hg : g.Guarded) (r : List Char) :
    (g.scan r).result (byteCount r) = ((g.scan r).tokens 0 (byteCount r)).map
      fun tokens => ⟨tokens, .place (byteCount r) []⟩ := by
  cases hs : g.scan r with
  | stopped tokens read rest =>
    obtain ⟨rfl, rfl⟩ := scan_eq_stopped hg hs
    rfl
  | openString tokens read rest =>
    simp only [Scan.tokens, Nat.zero_add]
    rfl

/-- **Lexing is a single pass**, with both tables and for every source: the same tokens, read to
the end of the source, or the same failure. -/
theorem lex_eq_singlePass (source : String) :
    (Grammar.cLike.lex source = (Grammar.cLike.singlePass source).map
      fun tokens => ⟨tokens, .place (byteCount source.toList) []⟩) ∧
    (Grammar.pythonLike.lex source = (Grammar.pythonLike.singlePass source).map
      fun tokens => ⟨tokens, .place (byteCount source.toList) []⟩) := by
  rw [Grammar.lex_eq_scan, Grammar.lex_eq_scan, result_scan guarded_cLike,
    result_scan guarded_pythonLike, singlePass_eq_scan plain_cLike,
    singlePass_eq_scan plain_pythonLike]
  exact ⟨rfl, rfl⟩

/-- The same letters are part of a string, and a name. -/
example : Grammar.pythonLike.singlePass "rf\"a\" rf" =
    .ok [⟨.text, "rf\"a\""⟩, ⟨.symbol, "rf"⟩] := by
  cbv

end Corpus
