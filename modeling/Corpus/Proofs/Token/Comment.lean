import Corpus.Proofs.Token.Productions

/-!
# Where comments end

A comment is its opener and what is behind it through the first closer, or to the end of the input.
`ThroughFirst` says what that is without going through the text: **the closer comes next at a place
behind the opener, and at no place before that one**. The parser goes on where its closer refuses
and stops where it runs out of input, and it always comes to an end that is this one
(`comment_ends_at_first_closer`).

A line comment is no exception, although its closer takes a carriage return before the line feed
with it: what is read through the line end is what is there through the first line feed.
-/

set_option autoImplicit false

namespace Corpus

open Corpus.Parse Corpus.Parse.Parser

/-- The beginning of the text `r` through the first place where the closer comes next, and what is
behind; or all of it, if the closer comes nowhere. -/
inductive ThroughFirst (closer r : List Char) : List Char → List Char → Prop where
  | closed {before rest : List Char} (hr : r = before ++ closer ++ rest)
      (first : ∀ b s, r = b ++ s → byteCount b < byteCount before → ¬ closer <+: s) :
      ThroughFirst closer r (before ++ closer) rest
  | unclosed (never : ∀ b s, r = b ++ s → ¬ closer <+: s) : ThroughFirst closer r r []

namespace ThroughFirst

variable {closer r text rest : List Char} {x : Char}

theorem here (h : closer <+: r) : ThroughFirst closer r closer (r.drop closer.length) := by
  obtain ⟨s, rfl⟩ := h
  rw [List.drop_left]
  exact @closed closer _ [] s rfl fun b _ _ hb => absurd hb (Nat.not_lt_zero _)

/-- Where the closer does not come next, it is looked for behind the next character. -/
theorem later (here : ¬ closer <+: x :: r) (h : ThroughFirst closer r text rest) :
    ThroughFirst closer (x :: r) (x :: text) rest := by
  cases h with
  | @closed before _ hr first =>
    refine @closed closer _ (x :: before) rest (by rw [hr]; rfl) fun b s hs hb => ?_
    cases b with
    | nil => rwa [← List.nil_append s, ← hs]
    | cons y b =>
      obtain ⟨rfl, hr'⟩ := List.cons_eq_cons.1 hs
      exact first b s hr' (Nat.add_lt_add_iff_left.1 hb)
  | unclosed never =>
    refine .unclosed fun b s hs => ?_
    cases b with
    | nil => rwa [← List.nil_append s, ← hs]
    | cons y b => exact never b s (List.cons_eq_cons.1 hs).2

end ThroughFirst

theorem throughFirst_cutThrough (closer r : List Char) :
    ThroughFirst closer r (cutThrough closer r).1 (cutThrough closer r).2 := by
  induction r with
  | nil =>
    by_cases h : closer <+: []
    · obtain rfl := List.prefix_nil.1 h
      exact .here h
    · refine .unclosed fun b s hs => ?_
      rwa [(List.append_eq_nil_iff.1 hs.symm).2]
  | cons x r ih =>
    unfold cutThrough
    by_cases h : closer <+: x :: r
    · rw [if_pos h]
      exact .here h
    · rw [if_neg h]
      exact .later h ih

theorem run_comment_of_ahead {opener : String} {closer : Parser (List Char)} {closing : List Char}
    (hc : ∀ o r, (through closer).run (.place o r) =
      .ok (cutThrough closing r).1
        (.place (o + byteCount (cutThrough closing r).1) (cutThrough closing r).2))
    (o : Nat) (r : List Char) :
    ∃ text rest, ThroughFirst closing r text rest ∧
      (comment opener closer).run (.place o (opener.toList ++ r)) =
        .ok (.ofChars .text (opener.toList ++ text))
          (.place (o + byteCount (opener.toList ++ text)) rest) := by
  refine ⟨_, _, throughFirst_cutThrough closing r, ?_⟩
  simp only [comment, run_bind, run_text_append, hc, run_pure, byteCount_append, Nat.add_assoc]

/-- **A comment ends at the first closer behind its opener, or with the input.** This is so at
every place where the opener comes next, whatever the two are, empty texts included; the comment is
free text, the parser stands right behind it, and the opener and the closer share no character.
Line comments end at the first line feed, whatever carriage returns there are. Where the opener
does not come next, nothing is read. -/
theorem comment_ends_at_first_closer (opener : String) (o : Nat) (r : List Char) :
    (∀ closer : String, ∃ text rest, ThroughFirst closer.toList r text rest ∧
      (comment opener (Parser.text closer)).run (.place o (opener.toList ++ r)) =
        .ok (.ofChars .text (opener.toList ++ text))
          (.place (o + byteCount (opener.toList ++ text)) rest)) ∧
    (∃ text rest, ThroughFirst ['\n'] r text rest ∧
      (comment opener newline).run (.place o (opener.toList ++ r)) =
        .ok (.ofChars .text (opener.toList ++ text))
          (.place (o + byteCount (opener.toList ++ text)) rest)) ∧
    (¬ opener.toList <+: r → ∀ closer : Parser (List Char), ∃ e,
      (comment opener closer).run (.place o r) = .fail e (.place o r)) := by
  refine ⟨?block, ?line, ?refused⟩
  case block => exact fun closer => run_comment_of_ahead (fun o => run_through_text o closer) o r
  case line => exact run_comment_of_ahead run_through_newline o r
  case refused =>
    intro h closer
    obtain ⟨e, he, -⟩ := run_text_of_not_ahead (o := o) h
    exact ⟨e, by simp only [comment, run_bind, he]⟩

/-- The slash of the opener is not taken for that of a closer, and neither is a star before the
closer. A carriage return by itself ends no line. Half an opener is none. -/
theorem comment_ends_at_first_closer_halves :
    let block := comment "/*" (Parser.text "*/")
    let line := comment "//" newline
    (∃ text rest, ThroughFirst "*/".toList "/é**/x".toList text rest ∧
      block.run (.place 3 "/*/é**/x".toList) =
        .ok (.ofChars .text ("/*".toList ++ text))
          (.place (3 + byteCount ("/*".toList ++ text)) rest)) ∧
    block.run (.place 3 "/*/é**/x".toList) = .ok ⟨.text, "/*/é**/"⟩ (.place 11 ['x']) ∧
    (∃ text rest, ThroughFirst ['\n'] "a\rb\r\nc".toList text rest ∧
      line.run (.place 0 "//a\rb\r\nc".toList) =
        .ok (.ofChars .text ("//".toList ++ text))
          (.place (0 + byteCount ("//".toList ++ text)) rest)) ∧
    line.run (.place 0 "//a\rb\r\nc".toList) = .ok ⟨.text, "//a\rb\r\n"⟩ (.place 7 ['c']) ∧
    ¬ "/*".toList <+: "/ *".toList ∧
    ∃ e, block.run (.place 0 "/ *".toList) = .fail e (.place 0 "/ *".toList) := by
  intro block line
  obtain ⟨closed, -⟩ := comment_ends_at_first_closer "/*" 3 "/é**/x".toList
  obtain ⟨-, lineEnd, -⟩ := comment_ends_at_first_closer "//" 0 "a\rb\r\nc".toList
  obtain ⟨-, -, refused⟩ := comment_ends_at_first_closer "/*" 0 "/ *".toList
  exact ⟨closed "*/", by decide +kernel, lineEnd, by decide +kernel, by decide,
    refused (by decide) _⟩

end Corpus
