import Corpus.Proofs.Parse.Cut
import Corpus.Token.Production

/-!
# What a text begins with

The productions of a grammar once more, as functions on the text ahead: each takes a token off the
front or finds none. `Grammar.front` tries them in the order of `Grammar.token`, and its three
answers are the three things that can come of it: a token, a string that is never closed, or
nothing at all. That it is the same function is shown in `Proofs/Token/Productions.lean`; here it
stands alone, so that what it does can be told by looking at texts.

**A token is what was taken** (`front_eq_token`): laid before what is left, it gives the text back.
This holds of every table, also of one with empty delimiters, whose tokens may be empty.
-/

set_option autoImplicit false

namespace Corpus

open Corpus.Parse Corpus.Text

/-! ## Delimited texts -/

/-- What there is through the first place where `closer` comes next, or all of it, and what is
behind. -/
def cutThrough (closer : List Char) : List Char → List Char × List Char
  | [] => ([], [])
  | x :: r =>
    if closer <+: x :: r then (closer, (x :: r).drop closer.length)
    else (x :: (cutThrough closer r).1, (cutThrough closer r).2)

theorem cutThrough_append (closer r : List Char) :
    (cutThrough closer r).1 ++ (cutThrough closer r).2 = r := by
  induction r with
  | nil => rfl
  | cons x r ih =>
    unfold cutThrough
    split
    · rename_i h
      obtain ⟨s, hs⟩ := h
      rw [← hs, List.drop_left]
    · rw [List.cons_append, ih]

/-- A comment, from its opener through its closer or to the end. -/
def cutComment (opener closer r : List Char) : Option (List Char × List Char) :=
  (Parser.cutText opener r).map fun (_, body) =>
    (opener ++ (cutThrough closer body).1, (cutThrough closer body).2)

/-- A character literal. The character between the marks is no backslash, unless it is escaped by
one. -/
def cutCharLiteral : List Char → Option (List Char × List Char)
  | '\'' :: '\\' :: x :: '\'' :: r => some (['\'', '\\', x, '\''], r)
  | '\'' :: x :: '\'' :: r => if x = '\\' then none else some (['\'', x, '\''], r)
  | _ => none

/-- The body of a string literal through its closing delimiter, read unit by unit: a backslash with
the character after it, or one character. -/
def cutBody (delimiter : List Char) : List Char → Option (List Char × List Char)
  | [] => none
  | x :: r =>
    if delimiter <+: x :: r then some (delimiter, (x :: r).drop delimiter.length)
    else if x = '\\' then
      match r with
      | [] => none
      | y :: s => (cutBody delimiter s).map fun (body, rest) => (x :: y :: body, rest)
    else (cutBody delimiter r).map fun (body, rest) => (x :: body, rest)

/-- A `#!` line with something on it, and its line feed. -/
def cutDirective : List Char → Option (List Char × List Char)
  | '#' :: '!' :: r =>
    match r.takeWhile (· != '\n'), r.dropWhile (· != '\n') with
    | x :: line, '\n' :: rest => some ('#' :: '!' :: x :: line ++ ['\n'], rest)
    | _, _ => none
  | _ => none

theorem cutBody_delimiter {delimiter : List Char} (hd : delimiter ≠ []) (r : List Char) :
    cutBody delimiter (delimiter ++ r) = some (delimiter, r) := by
  obtain ⟨x, d, rfl⟩ := List.exists_cons_of_ne_nil hd
  have closes : x :: d <+: x :: (d ++ r) := List.prefix_append (x :: d) r
  rw [List.cons_append]
  unfold cutBody
  rw [if_pos closes, ← List.cons_append, List.drop_left]

theorem cutBody_escape {delimiter : List Char} {x : Char} {r : List Char}
    (h : ¬ delimiter <+: '\\' :: x :: r) :
    cutBody delimiter ('\\' :: x :: r) =
      (cutBody delimiter r).map fun (body, rest) => ('\\' :: x :: body, rest) := by
  rw [cutBody, if_neg h, if_pos rfl]

theorem cutBody_plain {delimiter : List Char} {x : Char} {r : List Char}
    (h : ¬ delimiter <+: x :: r) (hx : x ≠ '\\') :
    cutBody delimiter (x :: r) =
      (cutBody delimiter r).map fun (body, rest) => (x :: body, rest) := by
  conv_lhs => unfold cutBody
  rw [if_neg h, if_neg hx]

theorem cutComment_eq_some {opener closer r text rest : List Char}
    (h : cutComment opener closer r = some (text, rest)) : text ++ rest = r := by
  obtain ⟨⟨_, body⟩, hb, he⟩ := Option.map_eq_some_iff.1 h
  obtain ⟨rfl, rfl⟩ := Prod.mk.inj he
  obtain ⟨-, rfl⟩ := Parser.cutText_eq_some.1 hb
  rw [List.append_assoc, cutThrough_append]

theorem cutCharLiteral_eq_some {r text rest : List Char}
    (h : cutCharLiteral r = some (text, rest)) : text ++ rest = r := by
  unfold cutCharLiteral at h
  split at h
  · cases h
    rfl
  · split at h
    · cases h
    · cases h
      rfl
  · cases h

theorem cutBody_eq_some {delimiter r body rest : List Char}
    (h : cutBody delimiter r = some (body, rest)) : body ++ rest = r := by
  fun_induction cutBody delimiter r generalizing body with
  | case1 => cases h
  | case2 x r hp =>
    cases h
    obtain ⟨s, hs⟩ := hp
    rw [← hs, List.drop_left]
  | case3 => cases h
  | case4 _ y s ih =>
    obtain ⟨⟨b, _⟩, hb, he⟩ := Option.map_eq_some_iff.1 h
    obtain ⟨rfl, rfl⟩ := Prod.mk.inj he
    rw [List.cons_append, List.cons_append, ih hb]
  | case5 x r _ _ ih =>
    obtain ⟨⟨b, _⟩, hb, he⟩ := Option.map_eq_some_iff.1 h
    obtain ⟨rfl, rfl⟩ := Prod.mk.inj he
    rw [List.cons_append, ih hb]

theorem cutDirective_eq_some {r text rest : List Char}
    (h : cutDirective r = some (text, rest)) : text ++ rest = r := by
  unfold cutDirective at h
  split at h
  · rename_i r
    split at h
    · rename_i x line rest' hline hrest
      cases h
      have hr : r.takeWhile (· != '\n') ++ r.dropWhile (· != '\n') = r :=
        List.takeWhile_append_dropWhile
      rw [hline, hrest] at hr
      simp [← hr]
    · cases h
  · cases h

/-! ## Tokens -/

def Token.ofCut (category : Category) (cut : Option (List Char × List Char)) :
    Option (Token × List Char) :=
  cut.map fun (text, rest) => (.ofChars category text, rest)

theorem Token.ofCut_eq_some {category : Category} {cut : Option (List Char × List Char)}
    {t : Token} {rest : List Char} :
    Token.ofCut category cut = some (t, rest) ↔
      ∃ text, cut = some (text, rest) ∧ t = .ofChars category text := by
  simp only [Token.ofCut, Option.map_eq_some_iff, Prod.exists, Prod.mk.injEq]
  constructor
  · rintro ⟨text, _, h, rfl, rfl⟩
    exact ⟨text, h, rfl⟩
  · rintro ⟨text, h, rfl⟩
    exact ⟨text, rest, h, rfl, rfl⟩

@[simp] theorem Token.ofCut_eq_none {category : Category} {cut : Option (List Char × List Char)} :
    Token.ofCut category cut = none ↔ cut = none :=
  Option.map_eq_none_iff

@[simp] theorem Token.toList_ofChars (category : Category) (text : List Char) :
    (Token.ofChars category text).text.toList = text :=
  String.toList_ofList

/-- What a text begins with. -/
inductive Front where
  /-- This token, with so much behind it. -/
  | token (t : Token) (rest : List Char)
  /-- A string literal that is not closed. -/
  | openString
  /-- Nothing that a production accepts. -/
  | nothing

/-- The token that was taken, or else the other. -/
def Front.ofCut (cut : Option (Token × List Char)) (otherwise : Front) : Front :=
  match cut with
  | some (t, rest) => .token t rest
  | none => otherwise

theorem Front.ofCut_eq_token {cut : Option (Token × List Char)} {otherwise : Front} {t : Token}
    {rest : List Char} (h : Front.ofCut cut otherwise = .token t rest) :
    cut = some (t, rest) ∨ otherwise = .token t rest := by
  unfold Front.ofCut at h
  split at h
  · cases h
    exact .inl rfl
  · exact .inr h

theorem Front.ofCut_eq_openString {cut : Option (Token × List Char)} {otherwise : Front}
    (h : Front.ofCut cut otherwise = .openString) : cut = none ∧ otherwise = .openString := by
  unfold Front.ofCut at h
  split at h
  · cases h
  · exact ⟨rfl, h⟩

namespace Grammar

variable (g : Grammar)

def cutNumber (r : List Char) : Option (Token × List Char) :=
  Token.ofCut g.nameCategory (Parser.nonempty (r.takeWhile Char.isDigit, r.dropWhile Char.isDigit))

def cutName (r : List Char) : Option (Token × List Char) :=
  if g.marksString (r.takeWhile g.isNameChar) = true ∧
      quote.toList <+: r.dropWhile g.isNameChar then none
  else
    Token.ofCut g.nameCategory
      (Parser.nonempty (r.takeWhile g.isNameChar, r.dropWhile g.isNameChar))

/-- Whether what is ahead is no part of a run of symbols. -/
def endsSymbols (r : List Char) : Bool :=
  g.symbolEnds.any (·.toList.isPrefixOf r) || (cutCharLiteral r).isSome || headIs isBlank r
    || headIs g.isNameChar r

def cutSymbols (r : List Char) : Option (Token × List Char) :=
  Token.ofCut .symbol (Parser.nonempty (takeUntil g.endsSymbols r))

def cutLineComment (r : List Char) : Option (Token × List Char) :=
  Token.ofCut .text (cutComment g.lineComment.toList ['\n'] r)

def cutBlockComment (r : List Char) : Option (Token × List Char) :=
  match g.blockComment? with
  | some (opener, closer) => Token.ofCut .text (cutComment opener.toList closer.toList r)
  | none => none

/-- The string literal that an opener begins, from what is behind the opener. -/
def frontBody (opener : List Char) (delimiter : String) (r : List Char) : Front :=
  match cutBody delimiter.toList r with
  | some (body, rest) => .token (.ofChars g.stringCategory (opener ++ body)) rest
  | none => .openString

/-- The string literal behind its marks. The longer delimiter is looked for first. -/
def frontMarked (marks r : List Char) : Front :=
  match Parser.cutText tripleQuote.toList r with
  | some (delimiter, body) => g.frontBody (marks ++ delimiter) tripleQuote body
  | none =>
    match Parser.cutText quote.toList r with
    | some (delimiter, body) => g.frontBody (marks ++ delimiter) quote body
    | none => .nothing

def frontString (r : List Char) : Front :=
  g.frontMarked (r.takeWhile g.stringMarks.toList.contains)
    (r.dropWhile g.stringMarks.toList.contains)

def front (r : List Char) : Front :=
  .ofCut (g.cutNumber r) <| .ofCut (g.cutName r) <| .ofCut (g.cutSymbols r) <|
    .ofCut (g.cutLineComment r) <| .ofCut (g.cutBlockComment r) <|
      .ofCut (Token.ofCut .literal (cutCharLiteral r)) (g.frontString r)

/-! ## A token is what was taken -/

variable {g} {r rest : List Char} {t : Token}

theorem ofCut_append {category : Category} {cut : Option (List Char × List Char)}
    (hc : ∀ {text rest}, cut = some (text, rest) → text ++ rest = r)
    (h : Token.ofCut category cut = some (t, rest)) : t.text.toList ++ rest = r := by
  obtain ⟨text, ht, rfl⟩ := Token.ofCut_eq_some.1 h
  rw [Token.toList_ofChars]
  exact hc ht

theorem nonempty_append {cut : List Char × List Char} {text : List Char} (hc : cut.1 ++ cut.2 = r)
    (h : Parser.nonempty cut = some (text, rest)) : text ++ rest = r := by
  obtain ⟨rfl, -⟩ := Parser.nonempty_eq_some.1 h
  exact hc

theorem cutName_append (h : g.cutName r = some (t, rest)) : t.text.toList ++ rest = r := by
  unfold cutName at h
  split at h
  · cases h
  · exact ofCut_append (nonempty_append List.takeWhile_append_dropWhile) h

theorem cutBlockComment_append (h : g.cutBlockComment r = some (t, rest)) :
    t.text.toList ++ rest = r := by
  unfold cutBlockComment at h
  split at h
  · exact ofCut_append cutComment_eq_some h
  · cases h

theorem frontBody_eq_token {opener body : List Char} {delimiter : String}
    (h : g.frontBody opener delimiter body = .token t rest) :
    t.text.toList ++ rest = opener ++ body := by
  unfold frontBody at h
  split at h
  · rename_i b _ hb
    cases h
    rw [Token.toList_ofChars, List.append_assoc, cutBody_eq_some hb]
  · cases h

theorem frontMarked_eq_token {marks : List Char} (h : g.frontMarked marks r = .token t rest) :
    t.text.toList ++ rest = marks ++ r := by
  unfold frontMarked at h
  split at h
  · rename_i _ _ hc
    obtain ⟨rfl, rfl⟩ := Parser.cutText_eq_some.1 hc
    rw [frontBody_eq_token h, List.append_assoc]
  · split at h
    · rename_i _ _ hc
      obtain ⟨rfl, rfl⟩ := Parser.cutText_eq_some.1 hc
      rw [frontBody_eq_token h, List.append_assoc]
    · cases h

theorem frontBody_category {opener body : List Char} {delimiter : String}
    (h : g.frontBody opener delimiter body = .token t rest) : t.category = g.stringCategory := by
  unfold frontBody at h
  split at h
  · cases h
    rfl
  · cases h

theorem frontString_category (h : g.frontString r = .token t rest) :
    t.category = g.stringCategory := by
  unfold frontString frontMarked at h
  split at h
  · exact frontBody_category h
  · split at h
    · exact frontBody_category h
    · cases h

theorem frontString_eq_token (h : g.frontString r = .token t rest) :
    t.text.toList ++ rest = r := by
  rw [frontMarked_eq_token h, List.takeWhile_append_dropWhile]

/-- Laid before what is left, a token gives back the text that it was taken from. -/
theorem front_eq_token (h : g.front r = .token t rest) : t.text.toList ++ rest = r := by
  rcases Front.ofCut_eq_token h with h | h
  · exact ofCut_append (nonempty_append List.takeWhile_append_dropWhile) h
  rcases Front.ofCut_eq_token h with h | h
  · exact cutName_append h
  rcases Front.ofCut_eq_token h with h | h
  · exact ofCut_append (nonempty_append (takeUntil_append _ _)) h
  rcases Front.ofCut_eq_token h with h | h
  · exact ofCut_append cutComment_eq_some h
  rcases Front.ofCut_eq_token h with h | h
  · exact cutBlockComment_append h
  rcases Front.ofCut_eq_token h with h | h
  · exact ofCut_append cutCharLiteral_eq_some h
  exact frontString_eq_token h

theorem category_of_front (h : g.front r = .token t rest) :
    t.category ∈ [g.nameCategory, .symbol, .text, .literal, g.stringCategory] := by
  have ofCut_category {category : Category} {cut : Option (List Char × List Char)}
      (h : Token.ofCut category cut = some (t, rest)) : t.category = category := by
    obtain ⟨_, -, rfl⟩ := Token.ofCut_eq_some.1 h
    rfl
  rcases Front.ofCut_eq_token h with h | h
  · simp [ofCut_category h]
  rcases Front.ofCut_eq_token h with h | h
  · unfold cutName at h
    split at h
    · cases h
    · simp [ofCut_category h]
  rcases Front.ofCut_eq_token h with h | h
  · simp [ofCut_category h]
  rcases Front.ofCut_eq_token h with h | h
  · simp [ofCut_category h]
  rcases Front.ofCut_eq_token h with h | h
  · unfold cutBlockComment at h
    split at h
    · simp [ofCut_category h]
    · cases h
  rcases Front.ofCut_eq_token h with h | h
  · simp [ofCut_category h]
  simp [frontString_category h]

theorem frontString_of_front_eq_openString (h : g.front r = .openString) :
    g.frontString r = .openString := by
  obtain ⟨-, h⟩ := Front.ofCut_eq_openString h
  obtain ⟨-, h⟩ := Front.ofCut_eq_openString h
  obtain ⟨-, h⟩ := Front.ofCut_eq_openString h
  obtain ⟨-, h⟩ := Front.ofCut_eq_openString h
  obtain ⟨-, h⟩ := Front.ofCut_eq_openString h
  exact (Front.ofCut_eq_openString h).2

theorem ne_nil_of_front_eq_openString (h : g.front r = .openString) : r ≠ [] := by
  rintro rfl
  have nothing : g.frontString [] = .nothing := rfl
  rw [frontString_of_front_eq_openString h] at nothing
  cases nothing

end Grammar

end Corpus
