import Corpus.Proofs.Parse.Inside
import Corpus.Token.Production

/-!
# Reading tokens goes forward

A few parsers of the productions are not made by combinators: a name may be refused after it was
read, a run of symbols asks first whether it ends, a comment and a string are read by loops of
their own. `Lexical P` adds these to `Compositional P`; the token of every grammar follows
(`Lexical.token`), whatever the strings in its table.

With that, `cursor_staysInside` says of all reading, described or lexical, by one parser or by a
session of actions, that it stays inside the text and between characters, and that failures point
into what is ahead.
-/

set_option autoImplicit false

namespace Corpus

open Corpus.Parse

/-- `P` passes through all combinators, and holds of the productions that are not made by them. -/
structure Lexical (P : ∀ {α : Type}, Parser α → Prop) : Prop extends Compositional @P where
  name : ∀ g : Grammar, P g.name
  symbolChar : ∀ {g : Grammar}, P g.symbolEnd → P g.symbolChar
  through : ∀ {closer : Parser (List Char)}, P closer → P (through closer)
  stringLiteral : ∀ g : Grammar, P g.stringLiteral

namespace Lexical

variable {P : ∀ {α : Type}, Parser α → Prop}

theorem escaped (h : Lexical @P) : P escaped :=
  h.bind (h.char '\\') fun _ => h.bind h.one fun x => h.pure ['\\', x]

theorem comment (h : Lexical @P) (opener : String) {closer : Parser (List Char)}
    (hcloser : P closer) : P (comment opener closer) :=
  h.bind (h.text opener) fun _ => h.bind (h.through hcloser) fun _ => h.pure _

variable (g : Grammar)

theorem number (h : Lexical @P) : P g.number :=
  h.map _ h.digits

theorem charLiteral (h : Lexical @P) : P g.charLiteral := by
  refine h.bind (h.between (h.char '\'') (h.char '\'') (h.choice ?_)) fun _ => h.pure _
  intro p hp
  rcases List.mem_cons.1 hp with rfl | hp
  · exact h.escaped
  · obtain rfl := List.mem_singleton.1 hp
    exact h.map _ (h.charNotIn "\\")

theorem directive (h : Lexical @P) : P g.directive :=
  h.bind (h.between (h.text "#!") (h.char '\n') (h.many1 (h.charNotIn "\n"))) fun _ => h.pure _

theorem symbolEnd (h : Lexical @P) : P g.symbolEnd := by
  apply h.choice
  intro p hp
  rcases List.mem_append.1 hp with hp | hp
  · obtain ⟨opener, -, rfl⟩ := List.mem_map.1 hp
    exact h.map _ (h.text opener)
  · simp only [List.mem_cons, List.not_mem_nil, or_false] at hp
    rcases hp with rfl | rfl | rfl
    · exact h.map _ (h.attempt (h.charLiteral g))
    · exact h.map _ h.blank
    · exact h.map _ (h.satisfy (.named "name character") g.isNameChar)

theorem symbols (h : Lexical @P) : P g.symbols :=
  h.map _ (h.many1 (h.symbolChar (h.symbolEnd g)))

theorem blockComments (h : Lexical @P) : ∀ p ∈ g.blockComments, P p := by
  intro p hp
  unfold Grammar.blockComments at hp
  split at hp
  · rename_i opener closer _
    obtain rfl := List.mem_singleton.1 hp
    exact h.attempt (h.comment opener (h.text closer))
  · cases hp

/-- What passes through the productions holds of the token of every grammar. -/
theorem token (h : Lexical @P) : P g.token := by
  apply h.choice
  intro p hp
  rw [List.mem_append, List.mem_append] at hp
  rcases hp with (hp | hp) | hp
  · simp only [List.mem_cons, List.not_mem_nil, or_false] at hp
    rcases hp with rfl | rfl | rfl | rfl
    · exact h.attempt (h.number g)
    · exact h.attempt (h.name g)
    · exact h.attempt (h.symbols g)
    · exact h.attempt (h.comment g.lineComment h.newline)
  · exact h.blockComments g p hp
  · simp only [List.mem_cons, List.not_mem_nil, or_false] at hp
    rcases hp with rfl | rfl
    · exact h.attempt (h.charLiteral g)
    · exact h.stringLiteral g

end Lexical

namespace Parse.Parser.Advances

theorem name (g : Grammar) : g.name.Advances := by
  refine .bind (compositional_advances.many1 (.satisfy (.named "name character") g.isNameChar)) ?_
  intro chars c
  dsimp only
  split
  · exact ⟨.refl c, .here_of_ne rfl⟩
  · exact Cursor.Reaches.refl c

theorem symbolChar {g : Grammar} (h : g.symbolEnd.Advances) : g.symbolChar.Advances := by
  intro c
  have hend := h.ahead c
  unfold Grammar.symbolChar
  dsimp only
  cases hr : (Parser.ahead g.symbolEnd).run c with
  | ok v d =>
    rw [hr] at hend
    exact ⟨hend, .here_of_ne rfl⟩
  | fail e d =>
    rw [hr] at hend
    exact (Advances.one d).of_reaches hend.1

theorem throughFrom {closer : Parser (List Char)} (h : closer.Advances) (seen : List Char)
    (c : Cursor) : (throughFrom closer seen c).Advances c := by
  have hcloser := h c
  rw [Corpus.throughFrom]
  cases hr : closer.run c with
  | ok text d =>
    rw [hr] at hcloser
    exact hcloser
  | fail e d =>
    dsimp only
    split
    · exact Cursor.Reaches.refl c
    · split
      · rename_i x f hnext
        have := Cursor.left_lt_of_next? hnext
        exact (throughFrom h (x :: seen) f).of_reaches (Cursor.Reaches.next hnext)
      · rename_i hnext
        exact .fail_here fun _ => Cursor.rest_of_next?_eq_none hnext
termination_by c.left

-- A backslash at the very end is read as well, so the failure of an unclosed string is at the end.
theorem stringRestFrom (delimiter : String) (opened : Nat) (seen : List Char) (c : Cursor) :
    (stringRestFrom delimiter opened seen c).Advances c := by
  have hcloser := Advances.text delimiter c
  rw [Corpus.stringRestFrom]
  cases hr : (Parser.text delimiter).run c with
  | ok closer d =>
    rw [hr] at hcloser
    exact hcloser
  | fail e d =>
    dsimp only
    split
    · exact ⟨.refl c, .here_of_ne rfl⟩
    · rename_i x f hfirst
      have hlt := Cursor.left_lt_of_next? hfirst
      have hcf := Cursor.Reaches.next hfirst
      split
      · split
        · exact (stringRestFrom delimiter opened (x :: seen) f).of_reaches hcf
        · rename_i y k hsecond
          have hlt' := Cursor.left_lt_of_next? hsecond
          have hck := hcf.trans (Cursor.Reaches.next hsecond)
          exact (stringRestFrom delimiter opened (y :: x :: seen) k).of_reaches hck
      · exact (stringRestFrom delimiter opened (x :: seen) f).of_reaches hcf
termination_by c.left

theorem stringStart (g : Grammar) (delimiter : String) : (g.stringStart delimiter).Advances :=
  .attempt (.bind (compositional_advances.many (compositional_advances.charIn g.stringMarks))
    fun marks => .bind (.text delimiter) fun opening =>
      compositional_advances.pure (marks ++ opening, delimiter))

theorem stringLiteral (g : Grammar) : g.stringLiteral.Advances := by
  refine .bind (.choice ?_) ?_
  · intro p hp
    simp only [List.mem_cons, List.not_mem_nil, or_false] at hp
    rcases hp with rfl | rfl
    · exact .stringStart g tripleQuote
    · exact .stringStart g quote
  · rintro ⟨opener, delimiter⟩
    refine .bind ?_ fun _ => compositional_advances.pure _
    intro c
    exact stringRestFrom delimiter _ [] c

end Parse.Parser.Advances

/-- Every token of every grammar is read going forward. -/
theorem lexical_advances : Lexical @Parser.Advances where
  toCompositional := compositional_advances
  name := .name
  symbolChar := .symbolChar
  through := fun h c => h.throughFrom [] c
  stringLiteral := .stringLiteral

/-- **Reading stays inside the text and between its characters.** It begins at a place of the text.
From any place, a described parser and the token of a grammar stop at a place that is no earlier,
and fail, if they do, at a place no earlier than they stop, which is the end if the input ran out.
After any actions a session's cursor is at a place of its text, and a session that goes back to a
place stands there. -/
theorem cursor_staysInside (source : List Char) :
    (Cursor.start source).StandsIn source ∧
    (∀ b, IsBoundary source b ↔ ∃ c : Cursor, c.StandsIn source ∧ c.offset = b) ∧
    (∀ (t : Term) (c : Cursor), c.StandsIn source → (t.parser.run c).StaysInside source c) ∧
    (∀ (g : Grammar) (c : Cursor), c.StandsIn source → (g.token.run c).StaysInside source c) ∧
    (∀ (c : Cursor) (actions : List Action), c.StandsIn source →
      ∀ step ∈ (⟨source, c⟩ : Session).performAll actions,
        step.2.source = source ∧ step.2.cursor.StandsIn source) ∧
    (∀ (c : Cursor) (b : Nat), IsBoundary source b → b ≤ c.offset →
      ((⟨source, c⟩ : Session).perform (.rewind b)).2.cursor.offset = b) := by
  refine ⟨.start source, fun b => isBoundary_iff, ?described, ?lexical, ?actions, ?back⟩
  case described =>
    intro t c hc
    exact (compositional_advances.term t c).staysInside hc
  case lexical =>
    intro g c hc
    exact (lexical_advances.token g c).staysInside hc
  case actions =>
    intro c actions hc
    have hs : (⟨source, c⟩ : Session).Sound := hc
    exact hs.performAll actions
  case back =>
    intro c b hb hle
    exact Session.perform_rewind hb hle

/-- Characters of two and three bytes: the second is read and the third is not what was asked for,
so the failure stands and points behind the second. -/
theorem cursor_staysInside_wide :
    let source := "é中b".toList
    let c := Cursor.place 2 "中b".toList
    let t := Term.andThen .one (.text "bb")
    c.StandsIn source ∧
    t.parser.run c = .fail ⟨.notText "bb", 5⟩ (.place 5 ['b']) ∧
    (t.parser.run c).StaysInside source c ∧
    (Grammar.cLike.token.run c).StaysInside source c ∧
    (∀ step ∈ (⟨source, c⟩ : Session).performAll [.next, .rewind 3, .parse t],
      step.2.source = source ∧ step.2.cursor.StandsIn source) ∧
    ((⟨source, c⟩ : Session).perform (.rewind 0)).2.cursor.offset = 0 := by
  intro source c t
  have hc : c.StandsIn source := ⟨['é'], rfl, rfl⟩
  have h0 : IsBoundary source 0 := ⟨[], source, rfl, rfl⟩
  obtain ⟨-, -, described, lexical, actions, back⟩ := cursor_staysInside source
  exact ⟨hc, rfl, described t c hc, lexical .cLike c hc, actions c _ hc,
    back c 0 h0 (Nat.zero_le _)⟩

end Corpus
