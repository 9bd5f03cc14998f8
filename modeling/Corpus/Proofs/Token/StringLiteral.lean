import Corpus.Proofs.Token.Unclosed

/-!
# String literals, as a grammar

A string literal is its marks, an opening delimiter, a body, and the closing delimiter. The body is
made of units (`IsBodyUnit`), and **the closing delimiter is the first one that stands between two
units**: `ClosedBy` says so without saying how it is looked for. The two delimiters begin alike, and
a unit may begin like either of them, so where the units begin decides what closes the string; but
there is at most one way to cut a text like that (`ClosedBy.unique`).

`stringLiteral_reads` says that the parser accepts these texts and no others. Any text can be put
into a literal by escaping its quotation marks and backslashes; the literal is then read to its end
and no further.
-/

set_option autoImplicit false

namespace Corpus

open Corpus.Parse Corpus.Parse.Parser Corpus.Text

/-! ## Bodies and what closes them -/

/-- A backslash with the character after it, or one character that is no backslash. -/
inductive IsBodyUnit : List Char → Prop where
  | escaped (x : Char) : IsBodyUnit ['\\', x]
  | plain {x : Char} (hx : x ≠ '\\') : IsBodyUnit [x]

/-- The text is the units, the delimiter and the tail, and at the start of none of the units does
the delimiter come next. -/
structure ClosedBy (delimiter : List Char) (units : List (List Char)) (tail text : List Char) :
    Prop where
  text_eq : text = units.flatten ++ (delimiter ++ tail)
  isBodyUnit : ∀ unit ∈ units, IsBodyUnit unit
  open_before : ∀ before unit after, before ++ unit :: after = units →
    ¬ delimiter <+: (unit :: after).flatten ++ (delimiter ++ tail)

section

variable {delimiter tail text : List Char} {unit : List Char} {units : List (List Char)}

theorem ClosedBy.nil : ClosedBy delimiter [] tail (delimiter ++ tail) where
  text_eq := rfl
  isBodyUnit := List.forall_mem_nil _
  open_before := by
    intro before unit after h
    cases before <;> cases h

theorem ClosedBy.cons (hunit : IsBodyUnit unit) (hopen : ¬ delimiter <+: unit ++ text)
    (h : ClosedBy delimiter units tail text) :
    ClosedBy delimiter (unit :: units) tail (unit ++ text) where
  text_eq := by rw [List.flatten_cons, List.append_assoc, h.text_eq]
  isBodyUnit := List.forall_mem_cons.2 ⟨hunit, h.isBodyUnit⟩
  open_before := by
    intro before u after hunits
    cases before with
    | nil =>
      obtain ⟨rfl, rfl⟩ := List.cons_eq_cons.1 hunits
      rwa [List.flatten_cons, List.append_assoc, ← h.text_eq]
    | cons v before => exact h.open_before before u after (List.cons_eq_cons.1 hunits).2

/-- The first unit, and what is behind it. -/
theorem ClosedBy.uncons (h : ClosedBy delimiter (unit :: units) tail text) :
    ∃ rest, text = unit ++ rest ∧ IsBodyUnit unit ∧ ¬ delimiter <+: text ∧
      ClosedBy delimiter units tail rest := by
  have htext := h.text_eq
  rw [List.flatten_cons, List.append_assoc] at htext
  have hfirst := h.open_before [] unit units rfl
  rw [← h.text_eq] at hfirst
  obtain ⟨hunit, hunits⟩ := List.forall_mem_cons.1 h.isBodyUnit
  refine ⟨_, htext, hunit, hfirst, rfl, hunits, ?_⟩
  rintro before u after rfl
  exact h.open_before (unit :: before) u after rfl

/-- Units are cut from their text as they were put into it. -/
theorem bodyUnits_flatten (h : ∀ unit ∈ units, IsBodyUnit unit) :
    bodyUnits units.flatten = units := by
  induction units with
  | nil => rfl
  | cons unit units ih =>
    obtain ⟨hunit, hunits⟩ := List.forall_mem_cons.1 h
    rw [List.flatten_cons]
    cases hunit with
    | escaped x => exact congrArg (['\\', x] :: ·) (ih hunits)
    | plain hx =>
      rw [List.singleton_append, bodyUnits_cons hx, ih hunits]

/-! ## Cutting a body -/

/-- What is closed is cut behind its delimiter. -/
theorem ClosedBy.cutBody_eq (hd : delimiter ≠ []) (h : ClosedBy delimiter units tail text) :
    cutBody delimiter text = some (units.flatten ++ delimiter, tail) := by
  induction units generalizing text with
  | nil =>
    obtain rfl : text = delimiter ++ tail := h.text_eq
    exact cutBody_delimiter hd tail
  | cons unit units ih =>
    obtain ⟨rest, rfl, hunit, hopen, hrest⟩ := h.uncons
    have cut := ih hrest
    cases hunit with
    | escaped x =>
      rw [List.cons_append, List.singleton_append] at hopen ⊢
      rw [cutBody_escape hopen, cut]
      rfl
    | plain hx =>
      rw [List.singleton_append] at hopen ⊢
      rw [cutBody_plain hopen hx, cut]
      rfl

/-- What is cut is closed where it was cut. -/
theorem exists_closedBy_of_cutBody {body : List Char}
    (h : cutBody delimiter text = some (body, tail)) :
    ∃ units, ClosedBy delimiter units tail text := by
  fun_induction cutBody delimiter text generalizing body with
  | case1 => cases h
  | case2 x r hp =>
    cases h
    obtain ⟨s, hs⟩ := hp
    rw [← hs, List.drop_left]
    exact ⟨[], .nil⟩
  | case3 => cases h
  | case4 y s hp ih =>
    obtain ⟨⟨b, _⟩, hb, he⟩ := Option.map_eq_some_iff.1 h
    obtain ⟨-, rfl⟩ := Prod.mk.inj he
    obtain ⟨units, hunits⟩ := ih hb
    exact ⟨_, .cons (.escaped y) hp hunits⟩
  | case5 x r hp hx ih =>
    obtain ⟨⟨b, _⟩, hb, he⟩ := Option.map_eq_some_iff.1 h
    obtain ⟨-, rfl⟩ := Prod.mk.inj he
    obtain ⟨units, hunits⟩ := ih hb
    exact ⟨_, .cons (.plain hx) hp hunits⟩

/-- A text is closed in one way at most. -/
theorem ClosedBy.unique {units' : List (List Char)} {tail' : List Char} (hd : delimiter ≠ [])
    (h : ClosedBy delimiter units tail text) (h' : ClosedBy delimiter units' tail' text) :
    units' = units ∧ tail' = tail := by
  have cut := h.cutBody_eq hd
  rw [h'.cutBody_eq hd, Option.some.injEq, Prod.mk.injEq] at cut
  obtain ⟨hbody, htail⟩ := cut
  have hflatten : units'.flatten = units.flatten := List.append_cancel_right hbody
  refine ⟨?_, htail⟩
  rw [← bodyUnits_flatten h'.isBodyUnit, ← bodyUnits_flatten h.isBodyUnit, hflatten]

end

/-! ## The literal of a grammar -/

/-- The delimiter that comes next: the longer one if it does. -/
def delimiterOf (r : List Char) : List Char :=
  if tripleQuote.toList <+: r then tripleQuote.toList else quote.toList

theorem delimiterOf_ne_nil (r : List Char) : delimiterOf r ≠ [] := by
  unfold delimiterOf
  split <;> decide

theorem eq_delimiterOf_append {r : List Char} (h : quote.toList <+: r) :
    r = delimiterOf r ++ r.drop (delimiterOf r).length := by
  have ahead : delimiterOf r <+: r := by
    unfold delimiterOf
    split
    · assumption
    · exact h
  exact (List.prefix_iff_eq_append.1 ahead).symm

/-- The character as it stands in a literal for itself: a quotation mark or a backslash behind a
backslash. -/
def escapedInLiteral (x : Char) : List Char :=
  if x = '"' ∨ x = '\\' then ['\\', x] else [x]

namespace Grammar

variable {g : Grammar} {r : List Char}

/-- Behind its marks, a string literal is decided by the delimiter that comes next. -/
theorem frontMarked_eq (marks : List Char) {body : List Char} (hr : r = delimiterOf r ++ body) :
    g.frontMarked marks r =
      match cutBody (delimiterOf r) body with
      | some (text, rest) =>
        .token (.ofChars g.stringCategory (marks ++ delimiterOf r ++ text)) rest
      | none => .openString := by
  by_cases triple : tripleQuote.toList <+: r
  · have hd : delimiterOf r = tripleQuote.toList := if_pos triple
    rw [hd] at hr ⊢
    simp only [frontMarked, cutText_eq_some.2 ⟨rfl, hr⟩]
    rfl
  · have hd : delimiterOf r = quote.toList := if_neg triple
    rw [hd] at hr ⊢
    simp only [frontMarked, cutText_eq_none.2 triple, cutText_eq_some.2 ⟨rfl, hr⟩]
    rfl

theorem frontMarked_of_not_ahead (marks : List Char) (h : ¬ quote.toList <+: r) :
    g.frontMarked marks r = .nothing := by
  have triple : ¬ tripleQuote.toList <+: r := by
    rintro ⟨body, rfl⟩
    exact h ⟨_, rfl⟩
  simp only [frontMarked, cutText_eq_none.2 triple, cutText_eq_none.2 h]

end Grammar

section

variable {g : Grammar} {o : Nat} {r marks marked body tail : List Char} {units : List (List Char)}
variable (hmarks : r.takeWhile g.stringMarks.toList.contains = marks)
variable (hmarked : r.dropWhile g.stringMarks.toList.contains = marked)
variable (hbody : marked = delimiterOf marked ++ body)
include hmarks hmarked hbody

/-- A literal that is closed is read to its closing delimiter. -/
theorem run_stringLiteral_of_closedBy (h : ClosedBy (delimiterOf marked) units tail body) :
    let text := marks ++ delimiterOf marked ++ units.flatten ++ delimiterOf marked
    r = text ++ tail ∧
      g.stringLiteral.run (.place o r) =
        .ok (.ofChars g.stringCategory text) (.place (o + byteCount text) tail) := by
  intro text
  have answers := answers_stringLiteral g o r
  have front : g.frontString r = .token (.ofChars g.stringCategory text) tail := by
    rw [Grammar.frontString, hmarks, hmarked, Grammar.frontMarked_eq marks hbody,
      h.cutBody_eq (delimiterOf_ne_nil marked)]
    simp only [text, List.append_assoc]
  rw [front] at answers
  have laid := Grammar.frontString_eq_token front
  rw [Token.toList_ofChars] at laid
  simp only [Front.Answers, Token.toList_ofChars] at answers
  exact ⟨laid.symm, answers⟩

/-- A literal that is not closed fails at the end of the text. -/
theorem run_stringLiteral_of_not_closedBy
    (h : ¬ ∃ units tail, ClosedBy (delimiterOf marked) units tail body) :
    g.stringLiteral.run (.place o r) =
      .fail ⟨.unterminatedString o, o + byteCount r⟩ (.place (o + byteCount r) []) := by
  have answers := answers_stringLiteral g o r
  rw [Grammar.frontString, hmarks, hmarked, Grammar.frontMarked_eq marks hbody] at answers
  cases hcut : cutBody (delimiterOf marked) body with
  | none =>
    rw [hcut] at answers
    exact answers
  | some cut =>
    obtain ⟨units, closed⟩ := exists_closedBy_of_cutBody hcut
    exact absurd ⟨units, _, closed⟩ h

end

/-! ## Escaped texts -/

theorem isBodyUnit_escapedInLiteral (x : Char) : IsBodyUnit (escapedInLiteral x) := by
  unfold escapedInLiteral
  split
  · exact .escaped x
  · rename_i plain
    exact .plain fun hx => plain (.inr hx)

/-- No escaped character begins with the quotation mark. -/
theorem not_quote_prefix_escapedInLiteral (x : Char) (r : List Char) :
    ¬ quote.toList <+: escapedInLiteral x ++ r := by
  intro h
  unfold escapedInLiteral at h
  split at h
  · have hquote := (List.cons_prefix_cons.1 h).1
    exact absurd hquote (by decide)
  · rename_i plain
    exact plain (.inl (List.cons_prefix_cons.1 h).1.symm)

/-- An escaped text is closed by the quotation mark behind it. -/
theorem closedBy_escaped (x tail : List Char) :
    ClosedBy quote.toList (x.map escapedInLiteral) tail
      (x.flatMap escapedInLiteral ++ (quote.toList ++ tail)) := by
  induction x with
  | nil => exact .nil
  | cons c x ih =>
    rw [List.flatMap_cons, List.append_assoc]
    exact .cons (isBodyUnit_escapedInLiteral c) (not_quote_prefix_escapedInLiteral c _) ih

/-- What stands behind a quotation mark and is not empty does not make it a longer delimiter. -/
theorem delimiterOf_escaped {x : List Char} (hx : x ≠ []) (tail : List Char) :
    delimiterOf (quote.toList ++ (x.flatMap escapedInLiteral ++ tail)) = quote.toList := by
  refine if_neg fun triple => ?_
  obtain ⟨c, x, rfl⟩ := List.exists_cons_of_ne_nil hx
  rw [List.flatMap_cons, List.append_assoc] at triple
  have second := (List.cons_prefix_cons.1 triple).2
  exact not_quote_prefix_escapedInLiteral c _ (List.IsPrefix.trans ⟨['"'], rfl⟩ second)

theorem run_stringLiteral_escaped {g : Grammar} (hmarks : g.stringMarks.toList.contains '"' = false)
    (o : Nat) {x : List Char} (hx : x ≠ []) (tail : List Char) :
    let text := '"' :: x.flatMap escapedInLiteral ++ ['"']
    g.stringLiteral.run (.place o (text ++ tail)) =
      .ok (.ofChars g.stringCategory text) (.place (o + byteCount text) tail) := by
  intro text
  have unmarked : headIs g.stringMarks.toList.contains (text ++ tail) = false := hmarks
  have htext : text ++ tail =
      quote.toList ++ (x.flatMap escapedInLiteral ++ (quote.toList ++ tail)) := by
    simp [text, quote]
  have hdelimiter : delimiterOf (text ++ tail) = quote.toList := by
    rw [htext, delimiterOf_escaped hx]
  have closed := closedBy_escaped x tail
  rw [← hdelimiter] at htext closed
  have read := run_stringLiteral_of_closedBy (o := o) (takeWhile_of_headIs unmarked)
    (dropWhile_of_headIs unmarked) htext closed
  simp only [hdelimiter, ← List.flatMap_def] at read
  exact read.2

/-! ## The grammar of string literals -/

/-- **String literals are what their grammar says.** Behind as many marks as there are, without a
quotation mark nothing is read. With one, let the delimiter be the longer one that comes next and
the body what is behind it: where the body is closed, which it is in one way at most, the literal is
read through its closing delimiter, and where it is not, the parser fails at the end of the text; so
it accepts just the bodies that are closed.

In a grammar whose marks are no quotation marks, any text that is not empty makes a literal once its
quotation marks and backslashes are escaped, whatever follows. -/
theorem stringLiteral_reads (g : Grammar) (o : Nat) :
    (∀ r : List Char,
      let marks := r.takeWhile g.stringMarks.toList.contains
      let marked := r.dropWhile g.stringMarks.toList.contains
      let delimiter := delimiterOf marked
      let body := marked.drop delimiter.length
      let reply := g.stringLiteral.run (.place o r)
      (¬ quote.toList <+: marked → ∃ e, reply = .fail e (.place o r)) ∧
      (quote.toList <+: marked →
        marked = delimiter ++ body ∧
        (∀ units tail, ClosedBy delimiter units tail body →
          let text := marks ++ delimiter ++ units.flatten ++ delimiter
          r = text ++ tail ∧
          reply = .ok (.ofChars g.stringCategory text) (.place (o + byteCount text) tail)) ∧
        (∀ units tail units' tail', ClosedBy delimiter units tail body →
          ClosedBy delimiter units' tail' body → units' = units ∧ tail' = tail) ∧
        ((¬ ∃ units tail, ClosedBy delimiter units tail body) →
          reply = .fail ⟨.unterminatedString o, o + byteCount r⟩ (.place (o + byteCount r) [])) ∧
        ((∃ t d, reply = .ok t d) ↔ ∃ units tail, ClosedBy delimiter units tail body))) ∧
    (g.stringMarks.toList.contains '"' = false → ∀ x tail : List Char, x ≠ [] →
      let text := '"' :: x.flatMap escapedInLiteral ++ ['"']
      g.stringLiteral.run (.place o (text ++ tail)) =
        .ok (.ofChars g.stringCategory text) (.place (o + byteCount text) tail)) := by
  refine ⟨?grammar, fun hmarks x tail hx => run_stringLiteral_escaped hmarks o hx tail⟩
  case grammar =>
    intro r marks marked delimiter body reply
    refine ⟨?unquoted, fun ahead => ?quoted⟩
    case unquoted =>
      intro unquoted
      have answers := answers_stringLiteral g o r
      rwa [Grammar.frontString, Grammar.frontMarked_of_not_ahead _ unquoted] at answers
    case quoted =>
      have hmarked : marked = delimiter ++ body := eq_delimiterOf_append ahead
      have closed : ∀ units tail, ClosedBy delimiter units tail body → _ :=
        fun units tail => run_stringLiteral_of_closedBy (o := o) rfl rfl hmarked
      refine ⟨hmarked, closed, fun _ _ _ _ => ClosedBy.unique (delimiterOf_ne_nil marked),
        run_stringLiteral_of_not_closedBy rfl rfl hmarked, ?accepts, ?only⟩
      case accepts =>
        rintro ⟨t, d, hok⟩
        by_contra open_body
        have failed : reply = _ := run_stringLiteral_of_not_closedBy rfl rfl hmarked open_body
        rw [failed] at hok
        cases hok
      case only =>
        rintro ⟨units, tail, h⟩
        exact ⟨_, _, (closed units tail h).2⟩

/-- A marked literal with quotation marks in it, of which the last is escaped, so that four stand in
a row at its end. And an escaped text that begins with a quotation mark, with another one behind. -/
theorem stringLiteral_reads_triple :
    let units := [['a'], ['"'], ['\\', '"']]
    let r := ['f', '"', '"', '"', 'a', '"', '\\', '"', '"', '"', '"', ' ', 'b']
    quote.toList <+: r.tail ∧ ClosedBy tripleQuote.toList units [' ', 'b'] (r.drop 4) ∧
    Grammar.pythonLike.stringLiteral.run (.place 3 r) =
      .ok (.ofChars .text (r.take 11)) (.place 14 [' ', 'b']) ∧
    Grammar.cLike.stringMarks.toList.contains '"' = false ∧
    Grammar.cLike.stringLiteral.run (.place 3 ['"', '\\', '"', '中', '"', '"']) =
      .ok (.ofChars .literal ['"', '\\', '"', '中', '"']) (.place 10 ['"']) := by
  intro units r
  have closed : ClosedBy tripleQuote.toList units [' ', 'b'] (r.drop 4) :=
    .cons (.plain (by decide)) (by decide) <| .cons (.plain (by decide)) (by decide) <|
      .cons (.escaped '"') (by decide) .nil
  have unmarked : Grammar.cLike.stringMarks.toList.contains '"' = false := by decide
  obtain ⟨-, quoted⟩ := (stringLiteral_reads .pythonLike 3).1 r
  obtain ⟨-, read, -⟩ := quoted (by decide)
  have escaped := (stringLiteral_reads .cLike 3).2 unmarked ['"', '中'] ['"'] (by decide)
  exact ⟨by decide, closed, (read units [' ', 'b'] closed).2, unmarked, escaped⟩

end Corpus
