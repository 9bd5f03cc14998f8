import Corpus.Proofs.Parse.Advance
import Corpus.Proofs.Parse.Cut

/-!
# Repetition goes by rounds

`p.Rounds c values d` says what repetition is, without a loop: **one run of the parser behind
another, each accepting and each moving**, from `c` on to `d`. Where rounds end is told by the last
run, which is not one of them. A run that stays where it began ends the repetition and adds nothing,
whether it accepts or not (`Stays`); one that fails further on fails the repetition
(`FailsBeyond`).

The rounds of `sepBy` are those of the separator and the element in sequence. It ends in more ways
than `many`, because a round that is not completed may have read the separator; the cursor then
stands where the last element ended (`Completes`, `Breaks`).

What both loops have in common is `TakesRounds`: a round at the front may be taken off, and where
there is none the loop ends or fails at once. The two outcomes of a loop follow from that alone
(`eq_ok`, `eq_fail`). The parsers are any that go forward, for only then is to stay the same as not
to move on.
-/

set_option autoImplicit false

namespace Corpus.Parse

variable {α β : Type}

namespace Parser

/-- The parser accepts again and again, moving each time: from the first cursor on to the second,
with these values. -/
inductive Rounds (p : Parser α) : Cursor → List α → Cursor → Prop where
  | none (c : Cursor) : Rounds p c [] c
  | round {c d f : Cursor} {v : α} {values : List α} (accepts : p.run c = .ok v d)
      (moves : c.offset < d.offset) (more : Rounds p d values f) : Rounds p c (v :: values) f

/-- Whether it accepts or fails, the parser leaves the cursor where it was. -/
def Stays (p : Parser α) (c : Cursor) : Prop :=
  (p.run c).cursor = c

/-- The parser fails, further on than where it began. -/
def FailsBeyond (p : Parser α) (c : Cursor) (e : Failure) (d : Cursor) : Prop :=
  p.run c = .fail e d ∧ c.offset < d.offset

/-- Behind an element, no further round is completed, and nothing is wrong with that. -/
inductive Completes (p : Parser α) (separator : Parser β) (c : Cursor) : Prop where
  | noSeparator {e : Failure} (fails : separator.run c = .fail e c)
  /-- There is a separator and no element behind it. -/
  | noElement {w : β} {e : Failure} {d : Cursor} (accepts : separator.run c = .ok w d)
      (fails : p.run d = .fail e d)
  /-- There are both, and neither has read anything. -/
  | still {v : α} (accepts : (separator.andThen p).run c = .ok v c)

/-- Behind an element, a further round has begun and fails. -/
inductive Breaks (p : Parser α) (separator : Parser β) (c : Cursor) (e : Failure) (f : Cursor) :
    Prop where
  | inSeparator (fails : separator.FailsBeyond c e f)
  | inElement {w : β} {d : Cursor} (accepts : separator.run c = .ok w d)
      (fails : p.FailsBeyond d e f)

/-! ## Loops that take rounds -/

/-- The loop takes a round of the parser where there is one, and otherwise ends or breaks. -/
structure TakesRounds (p : Parser α) (ends : Cursor → Prop)
    (breaks : Cursor → Failure → Cursor → Prop) (loop : Cursor → Reply (List α)) : Prop where
  round : ∀ {c d v}, p.run c = .ok v d → c.offset < d.offset → loop c = (loop d).map (v :: ·)
  ended : ∀ {c}, ends c → loop c = .ok [] c
  broken : ∀ {c e d}, breaks c e d → loop c = .fail e d
  cases : ∀ c, (∃ v d, p.run c = .ok v d ∧ c.offset < d.offset ∧ d.left < c.left) ∨ ends c ∨
    ∃ e d, breaks c e d

namespace TakesRounds

variable {p : Parser α} {ends : Cursor → Prop} {breaks : Cursor → Failure → Cursor → Prop}
  {loop : Cursor → Reply (List α)} {c d : Cursor} {values : List α}

/-- All rounds at the front may be taken off. -/
theorem rounds (h : TakesRounds p ends breaks loop) (rounds : p.Rounds c values d) :
    loop c = (loop d).map (values ++ ·) := by
  induction rounds with
  | none c =>
    cases loop c <;> rfl
  | @round c d f v values accepts moves more ih =>
    rw [h.round accepts moves, ih]
    cases loop f <;> rfl

/-- From every place there are rounds up to one where there are no more. What is left falls in each
of them. -/
theorem exists_rounds (h : TakesRounds p ends breaks loop) (c : Cursor) :
    ∃ values d, p.Rounds c values d ∧ (ends d ∨ ∃ e f, breaks d e f) := by
  rcases h.cases c with ⟨v, d, accepts, moves, less⟩ | ended
  · obtain ⟨values, f, more, ended⟩ := exists_rounds h d
    exact ⟨v :: values, f, .round accepts moves more, ended⟩
  · exact ⟨[], c, .none c, ended⟩
termination_by c.left

theorem eq_ok (h : TakesRounds p ends breaks loop) :
    loop c = .ok values d ↔ p.Rounds c values d ∧ ends d := by
  constructor
  · intro hloop
    obtain ⟨found, f, rounds, ended | ⟨e, g, broken⟩⟩ := h.exists_rounds c
    · rw [h.rounds rounds, h.ended ended, Reply.map_ok, List.append_nil] at hloop
      obtain ⟨rfl, rfl⟩ := Reply.ok.inj hloop
      exact ⟨rounds, ended⟩
    · rw [h.rounds rounds, h.broken broken] at hloop
      cases hloop
  · rintro ⟨rounds, ended⟩
    rw [h.rounds rounds, h.ended ended, Reply.map_ok, List.append_nil]

theorem eq_fail (h : TakesRounds p ends breaks loop) {e : Failure} :
    loop c = .fail e d ↔ ∃ values f, p.Rounds c values f ∧ breaks f e d := by
  constructor
  · intro hloop
    obtain ⟨found, f, rounds, ended | ⟨e', g, broken⟩⟩ := h.exists_rounds c
    · rw [h.rounds rounds, h.ended ended] at hloop
      cases hloop
    · rw [h.rounds rounds, h.broken broken] at hloop
      obtain ⟨rfl, rfl⟩ := Reply.fail.inj hloop
      exact ⟨found, f, rounds, broken⟩
  · rintro ⟨found, f, rounds, broken⟩
    rw [h.rounds rounds, h.broken broken, Reply.map_fail]

end TakesRounds

/-! ## Many -/

variable {p : Parser α} {separator : Parser β} {c d : Cursor}

theorem Advances.reaches_of_ok {v : α} (hp : p.Advances) (h : p.run c = .ok v d) :
    c.Reaches d := by
  have hc := hp c
  rw [h] at hc
  exact hc

theorem Advances.reaches_of_fail {e : Failure} (hp : p.Advances) (h : p.run c = .fail e d) :
    c.Reaches d := by
  have hc := hp c
  rw [h] at hc
  exact hc.1

theorem stays_of_ok {v : α} (h : p.run c = .ok v c) : p.Stays c := by
  unfold Stays
  rw [h]
  rfl

theorem stays_of_fail {e : Failure} (h : p.run c = .fail e c) : p.Stays c := by
  unfold Stays
  rw [h]
  rfl

theorem run_many_of_stays (h : p.Stays c) : p.many.run c = .ok [] c := by
  unfold Stays at h
  rw [run_many]
  cases hr : p.run c with
  | ok v d =>
    rw [hr] at h
    obtain rfl : d = c := h
    simp [d.isPast_self]
  | fail e d =>
    rw [hr] at h
    obtain rfl : d = c := h
    simp [d.isPast_self]

theorem takesRounds_many (hp : p.Advances) :
    TakesRounds p p.Stays p.FailsBeyond p.many.run where
  round := by
    intro c d v accepts moves
    have past := (hp.reaches_of_ok accepts).isPast_of_offset_lt moves
    simp [run_many p c, accepts, past]
  ended := run_many_of_stays
  broken := by
    rintro c e d ⟨fails, beyond⟩
    have past := (hp.reaches_of_fail fails).isPast_of_offset_lt beyond
    simp [run_many p c, fails, past]
  cases := by
    intro c
    cases hr : p.run c with
    | ok v d =>
      rcases (hp.reaches_of_ok hr).eq_or_isPast with rfl | ⟨moves, past⟩
      · exact .inr (.inl (stays_of_ok hr))
      · exact .inl ⟨v, d, rfl, moves, Cursor.left_lt_of_isPast past⟩
    | fail e d =>
      rcases (hp.reaches_of_fail hr).eq_or_isPast with rfl | ⟨beyond, -⟩
      · exact .inr (.inl (stays_of_fail hr))
      · exact .inr (.inr ⟨e, d, hr, beyond⟩)

/-! ## Elements and separators -/

theorem run_andThen {v : α} {f : Cursor} :
    (separator.andThen p).run c = .ok v f ↔
      ∃ w d, separator.run c = .ok w d ∧ p.run d = .ok v f := by
  show (separator >>= fun _ => p).run c = .ok v f ↔ _
  rw [run_bind]
  constructor
  · intro h
    cases hs : separator.run c with
    | ok w d =>
      rw [hs] at h
      exact ⟨w, d, rfl, h⟩
    | fail e d =>
      rw [hs] at h
      cases h
  · rintro ⟨w, d, hs, h⟩
    rw [hs]
    exact h

theorem Completes.sepByOnto (h : p.Completes separator c) :
    Parser.sepByOnto p separator [] c = .ok [] c := by
  rw [sepByOnto_nil]
  cases h with
  | noSeparator fails => simp [fails, c.isPast_self]
  | @noElement w e d accepts fails => simp [accepts, fails, d.isPast_self]
  | still accepts =>
    obtain ⟨w, d, hw, hv⟩ := run_andThen.1 accepts
    simp [hw, hv, c.isPast_self]

theorem Breaks.sepByOnto (hp : p.Advances) (hs : separator.Advances) {e : Failure} {f : Cursor}
    (h : p.Breaks separator c e f) : Parser.sepByOnto p separator [] c = .fail e f := by
  rw [sepByOnto_nil]
  cases h with
  | inSeparator fails =>
    obtain ⟨fails, beyond⟩ := fails
    have past := (hs.reaches_of_fail fails).isPast_of_offset_lt beyond
    simp [fails, past]
  | inElement accepts fails =>
    obtain ⟨fails, beyond⟩ := fails
    have past := (hp.reaches_of_fail fails).isPast_of_offset_lt beyond
    simp [accepts, fails, past]

theorem takesRounds_sepByOnto (hp : p.Advances) (hs : separator.Advances) :
    TakesRounds (separator.andThen p) (p.Completes separator) (p.Breaks separator)
      (sepByOnto p separator []) where
  round := by
    intro c d v accepts moves
    obtain ⟨w, f, hw, hv⟩ := run_andThen.1 accepts
    have past := ((hs.reaches_of_ok hw).trans (hp.reaches_of_ok hv)).isPast_of_offset_lt moves
    simp [sepByOnto_nil p separator c, hw, hv, past]
  ended := Completes.sepByOnto
  broken := Breaks.sepByOnto hp hs
  cases := by
    intro c
    cases hw : separator.run c with
    | fail e d =>
      rcases (hs.reaches_of_fail hw).eq_or_isPast with rfl | ⟨beyond, -⟩
      · exact .inr (.inl (.noSeparator hw))
      · exact .inr (.inr ⟨e, d, .inSeparator ⟨hw, beyond⟩⟩)
    | ok w d =>
      cases hv : p.run d with
      | fail e f =>
        rcases (hp.reaches_of_fail hv).eq_or_isPast with rfl | ⟨beyond, -⟩
        · exact .inr (.inl (.noElement hw hv))
        · exact .inr (.inr ⟨e, f, .inElement hw ⟨hv, beyond⟩⟩)
      | ok v f =>
        have accepts : (separator.andThen p).run c = .ok v f := run_andThen.2 ⟨w, d, hw, hv⟩
        have reached : c.Reaches f := (hs.reaches_of_ok hw).trans (hp.reaches_of_ok hv)
        rcases reached.eq_or_isPast with rfl | ⟨moves, past⟩
        · exact .inr (.inl (.still accepts))
        · exact .inl ⟨v, f, accepts, moves, Cursor.left_lt_of_isPast past⟩

theorem run_sepBy_of_ok {v : α} (h : p.run c = .ok v d) :
    (p.sepBy separator).run c = (sepByOnto p separator [] d).map (v :: ·) := by
  simp only [sepBy, h]
  exact sepByOnto_eq p separator [v] d

theorem run_sepBy_of_fail {e : Failure} (h : p.run c = .fail e c) :
    (p.sepBy separator).run c = .ok [] c := by
  simp [sepBy, h, c.isPast_self]

theorem FailsBeyond.run_sepBy {e : Failure} (hp : p.Advances) (h : p.FailsBeyond c e d) :
    (p.sepBy separator).run c = .fail e d := by
  obtain ⟨fails, beyond⟩ := h
  have past := (hp.reaches_of_fail fails).isPast_of_offset_lt beyond
  simp [sepBy, fails, past]

/-- The first element decides whether there is a sequence at all. -/
theorem first_cases (hp : p.Advances) (c : Cursor) :
    (∃ v d, p.run c = .ok v d) ∨ (∃ e, p.run c = .fail e c) ∨ ∃ e d, p.FailsBeyond c e d := by
  cases hr : p.run c with
  | ok v d => exact .inl ⟨v, d, rfl⟩
  | fail e d =>
    rcases (hp.reaches_of_fail hr).eq_or_isPast with rfl | ⟨beyond, -⟩
    · exact .inr (.inl ⟨e, rfl⟩)
    · exact .inr (.inr ⟨e, d, hr, beyond⟩)

theorem run_sepBy_eq_ok (hp : p.Advances) (hs : separator.Advances) {values : List α} :
    (p.sepBy separator).run c = .ok values d ↔
      (values = [] ∧ d = c ∧ ∃ e, p.run c = .fail e c) ∨
      ∃ v more f, values = v :: more ∧ p.run c = .ok v f ∧
        (separator.andThen p).Rounds f more d ∧ p.Completes separator d := by
  have takes := takesRounds_sepByOnto hp hs
  constructor
  · intro h
    rcases first_cases hp c with ⟨v, f, accepts⟩ | ⟨e, fails⟩ | ⟨e, f, fails⟩
    · rw [run_sepBy_of_ok accepts] at h
      cases hrounds : sepByOnto p separator [] f with
      | ok more g =>
        rw [hrounds] at h
        obtain ⟨rfl, rfl⟩ := Reply.ok.inj h
        obtain ⟨rounds, completes⟩ := takes.eq_ok.1 hrounds
        exact .inr ⟨v, more, f, rfl, accepts, rounds, completes⟩
      | fail e g =>
        rw [hrounds] at h
        cases h
    · rw [run_sepBy_of_fail fails] at h
      obtain ⟨rfl, rfl⟩ := Reply.ok.inj h
      exact .inl ⟨rfl, rfl, e, fails⟩
    · rw [fails.run_sepBy hp] at h
      cases h
  · rintro (⟨rfl, rfl, e, fails⟩ | ⟨v, more, f, rfl, accepts, rounds, completes⟩)
    · exact run_sepBy_of_fail fails
    · rw [run_sepBy_of_ok accepts, takes.eq_ok.2 ⟨rounds, completes⟩, Reply.map_ok]

theorem run_sepBy_eq_fail (hp : p.Advances) (hs : separator.Advances) {e : Failure} :
    (p.sepBy separator).run c = .fail e d ↔
      p.FailsBeyond c e d ∨
      ∃ v f values g, p.run c = .ok v f ∧ (separator.andThen p).Rounds f values g ∧
        p.Breaks separator g e d := by
  have takes := takesRounds_sepByOnto hp hs
  constructor
  · intro h
    rcases first_cases hp c with ⟨v, f, accepts⟩ | ⟨e', fails⟩ | ⟨e', f, fails⟩
    · rw [run_sepBy_of_ok accepts] at h
      cases hrounds : sepByOnto p separator [] f with
      | ok more g =>
        rw [hrounds] at h
        cases h
      | fail e' g =>
        rw [hrounds] at h
        obtain ⟨rfl, rfl⟩ := Reply.fail.inj h
        obtain ⟨values, k, rounds, breaks⟩ := takes.eq_fail.1 hrounds
        exact .inr ⟨v, f, values, k, accepts, rounds, breaks⟩
    · rw [run_sepBy_of_fail fails] at h
      cases h
    · rw [fails.run_sepBy hp] at h
      obtain ⟨rfl, rfl⟩ := Reply.fail.inj h
      exact .inl fails
  · rintro (fails | ⟨v, f, values, g, accepts, rounds, breaks⟩)
    · exact fails.run_sepBy hp
    · rw [run_sepBy_of_ok accepts, takes.eq_fail.2 ⟨values, g, rounds, breaks⟩, Reply.map_fail]

/-- **Repetition is greedy, and goes by rounds.** For any parsers that the combinators make:
`many` accepts with the values of rounds up to a place where the parser stays, and fails where
rounds end with a failure further on; `many1` is the parser and then `many`; `sepBy` accepts with
nothing where the first element fails in place, and otherwise with a first element and the rounds
behind it, at the end of the last of them, and fails where an element or a separator fails further
on than where it began. -/
theorem repetition_by_rounds (hp : p.Made) (hs : separator.Made) (c : Cursor) :
    (∀ values d, p.many.run c = .ok values d ↔ p.Rounds c values d ∧ p.Stays d) ∧
    (∀ e d, p.many.run c = .fail e d ↔
      ∃ values f, p.Rounds c values f ∧ p.FailsBeyond f e d) ∧
    (p.many1.run c =
      match p.run c with
      | .ok v d => (p.many.run d).map (v :: ·)
      | .fail e d => .fail e d) ∧
    (∀ values d, (p.sepBy separator).run c = .ok values d ↔
      (values = [] ∧ d = c ∧ ∃ e, p.run c = .fail e c) ∨
      ∃ v more f, values = v :: more ∧ p.run c = .ok v f ∧
        (separator.andThen p).Rounds f more d ∧ p.Completes separator d) ∧
    (∀ e d, (p.sepBy separator).run c = .fail e d ↔
      p.FailsBeyond c e d ∨
      ∃ v f values g, p.run c = .ok v f ∧ (separator.andThen p).Rounds f values g ∧
        p.Breaks separator g e d) := by
  have forward : p.Advances := hp.of_compositional compositional_advances
  have forward' : separator.Advances := hs.of_compositional compositional_advances
  have takes := takesRounds_many forward
  exact ⟨fun _ _ => takes.eq_ok, fun _ _ => takes.eq_fail, run_many1 p c,
    fun _ _ => run_sepBy_eq_ok forward forward', fun _ _ => run_sepBy_eq_fail forward forward'⟩

/-- Two rounds and a third that breaks; and a sequence that gives back its last separator. -/
theorem repetition_by_rounds_given_back :
    let p := (Parser.text "é").andThen (Parser.char 'c')
    let separator := Parser.char ','
    let torn := Cursor.place 0 "écécéx".toList
    let listed := Cursor.place 0 "éc,éc,x".toList
    p.Made ∧ separator.Made ∧
    p.many.run torn = .fail ⟨.mismatch (.char 'c') 'x', 8⟩ (.place 8 ['x']) ∧
    (∃ values f, p.Rounds torn values f ∧
      p.FailsBeyond f ⟨.mismatch (.char 'c') 'x', 8⟩ (.place 8 ['x'])) ∧
    (p.sepBy separator).run listed = .ok ['c', 'c'] (.place 7 [',', 'x']) ∧
    ∃ v more f, ['c', 'c'] = v :: more ∧ p.run listed = .ok v f ∧
      (separator.andThen p).Rounds f more (.place 7 [',', 'x']) ∧
      p.Completes separator (.place 7 [',', 'x']) := by
  intro p separator torn listed
  have made : p.Made := compositional_made.andThen (.text "é") (compositional_made.char 'c')
  have made' : separator.Made := compositional_made.char ','
  have breaks : ((Parser.text "é").andThen (Parser.char 'c')).many.run
      (.place 0 "écécéx".toList) = .fail ⟨.mismatch (.char 'c') 'x', 8⟩ (.place 8 ['x']) := by
    decide +kernel
  have found : (((Parser.text "é").andThen (Parser.char 'c')).sepBy (Parser.char ',')).run
      (.place 0 "éc,éc,x".toList) = .ok ['c', 'c'] (.place 7 [',', 'x']) := by
    decide +kernel
  obtain ⟨-, broken, -⟩ := repetition_by_rounds made made' torn
  obtain ⟨-, -, -, accepted, -⟩ := repetition_by_rounds made made' listed
  refine ⟨made, made', breaks, (broken _ _).1 breaks, found, ?_⟩
  exact ((accepted _ _).1 found).resolve_left fun empty => List.cons_ne_nil _ _ empty.1

end Parser

end Corpus.Parse
