import Corpus.Proofs.Parse.Rounds
import Mathlib.Data.List.OfFn
import Mathlib.Data.PFun

/-!
# Every parse ends

A `Parser` is a function, so it has a reply everywhere and its loops could not be otherwise than
finite. That they are is an achievement of the programs and not of the type. A `Process` is a parser
that may go on for ever: where it does it has no reply. **Its loops have no measure and no limit**;
they are fixed points of their rounds (`PFun.fix`). A round compares the cursor with the one that it
began at, and another round follows as long as it is another one, whether it is further on or
further back. Not all such loops end (`tallyMany_swing`).

A `Program` tells the parts that a parser is made of, and so both the parser and what is done to
read with it. `Program.process_performs` says that this ends everywhere with the reply of the
parser. What makes it end is that no parser goes back (`Proofs/Parse/Advance.lean`): each loop needs
to know of the parsers in it that they end and that they go forward, and the induction gives both.

Loops keep a tally of how often they have run what they repeat. A round that is followed by another
one has read a character, so there are not many more rounds than characters.
-/

set_option autoImplicit false

namespace Corpus.Parse

variable {α β γ : Type}

/-- A way of reading that may go on for ever. Where it does, there is no reply. -/
structure Process (α : Type) where
  run : Cursor →. Reply α

/-- Where a repetition stands between two rounds: the values so far, given backwards, how many times
it has run what it repeats, and the cursor. -/
structure Repetition (α : Type) where
  seen : List α
  runs : Nat
  cursor : Cursor

/-- The reply of a repetition, and how many times it has run what it repeats. -/
structure Tally (α : Type) where
  runs : Nat
  reply : Reply (List α)

namespace Process

/-- What a parser does in which nothing is repeated. -/
def ofParser (p : Parser α) : Process α :=
  ⟨fun c => pure (p.run c)⟩

instance : Monad Process where
  pure v := ⟨fun c => pure (.ok v c)⟩
  bind q next := ⟨fun c => do
    match ← q.run c with
    | .ok v d => (next v).run d
    | .fail e d => pure (.fail e d)⟩

def between (opening : Process α) (closing : Process β) (q : Process γ) : Process γ := do
  let _ ← opening
  let value ← q
  let _ ← closing
  pure value

def attempt (q : Process α) : Process α :=
  ⟨fun c => do
    match ← q.run c with
    | .ok v d => pure (.ok v d)
    | .fail e _ => pure (.fail e c)⟩

def ahead (q : Process α) : Process α :=
  ⟨fun c => do
    match ← q.run c with
    | .ok v _ => pure (.ok v c)
    | .fail e _ => pure (.fail e c)⟩

def optional (q : Process α) : Process (Option α) :=
  ⟨fun c => do
    match ← q.run c with
    | .ok v d => pure (.ok (some v) d)
    | .fail e d => pure (if d.offset = c.offset then .ok none d else .fail e d)⟩

def choiceOr (failure : Failure) : List (Process α) → Cursor → Part (Reply α)
  | [], c => pure (.fail failure c)
  | q :: alternatives, c => do
    match ← q.run c with
    | .ok v d => pure (.ok v d)
    | .fail e d => if d.offset = c.offset then choiceOr e alternatives d else pure (.fail e d)

def choice (alternatives : List (Process α)) : Process α :=
  ⟨fun c => choiceOr ⟨.noAlternative, c.offset⟩ alternatives c⟩

/-! ## Loops -/

/-- One run. It is the last if it fails or the cursor is the same as before. -/
def manyRound (q : Process α) (s : Repetition α) : Part (Tally α ⊕ Repetition α) := do
  match ← q.run s.cursor with
  | .ok v d =>
    pure (if d.offset = s.cursor.offset then .inl ⟨s.runs + 1, .ok s.seen.reverse d⟩
      else .inr ⟨v :: s.seen, s.runs + 1, d⟩)
  | .fail e d =>
    pure (.inl ⟨s.runs + 1, if d.offset = s.cursor.offset then .ok s.seen.reverse d else .fail e d⟩)

def tallyMany (q : Process α) (c : Cursor) : Part (Tally α) :=
  PFun.fix q.manyRound ⟨[], 0, c⟩

def tallyMany1 (q : Process α) (c : Cursor) : Part (Tally α) := do
  match ← q.run c with
  | .ok v d => PFun.fix q.manyRound ⟨[v], 1, d⟩
  | .fail e d => pure ⟨1, .fail e d⟩

/-- A run of the separator and one behind it, which is the one that counts. A separator with nothing
behind it is given back. -/
def sepByRound (q : Process α) (separator : Process β) (s : Repetition α) :
    Part (Tally α ⊕ Repetition α) := do
  match ← separator.run s.cursor with
  | .fail e d =>
    pure (.inl ⟨s.runs, if d.offset = s.cursor.offset then .ok s.seen.reverse d else .fail e d⟩)
  | .ok _ d =>
    match ← q.run d with
    | .ok v f =>
      pure (if f.offset = s.cursor.offset then .inl ⟨s.runs + 1, .ok s.seen.reverse f⟩
        else .inr ⟨v :: s.seen, s.runs + 1, f⟩)
    | .fail e f =>
      pure (.inl ⟨s.runs + 1, if f.offset = d.offset then .ok s.seen.reverse s.cursor
        else .fail e f⟩)

def tallySepBy (q : Process α) (separator : Process β) (c : Cursor) : Part (Tally α) := do
  match ← q.run c with
  | .ok v d => PFun.fix (q.sepByRound separator) ⟨[v], 1, d⟩
  | .fail e d => pure ⟨1, if d.offset = c.offset then .ok [] d else .fail e d⟩

def many (q : Process α) : Process (List α) :=
  ⟨fun c => (q.tallyMany c).map (·.reply)⟩

def many1 (q : Process α) : Process (List α) :=
  ⟨fun c => (q.tallyMany1 c).map (·.reply)⟩

def sepBy (q : Process α) (separator : Process β) : Process (List α) :=
  ⟨fun c => (q.tallySepBy separator c).map (·.reply)⟩

theorem fix_of_last {σ τ : Type} {round : σ →. τ ⊕ σ} {s : σ} {t : τ}
    (h : round s = Part.some (.inl t)) : PFun.fix round s = Part.some t :=
  Part.eq_some_iff.2 (PFun.fix_stop (Part.eq_some_iff.1 h))

theorem fix_of_more {σ τ : Type} {round : σ →. τ ⊕ σ} {s s' : σ}
    (h : round s = Part.some (.inr s')) : PFun.fix round s = PFun.fix round s' :=
  PFun.fix_fwd_eq (Part.eq_some_iff.1 h)

/-- Goes to and fro between the first two places of a text. -/
def swing : Process Unit :=
  ⟨fun c => pure (.ok () (.place (1 - c.offset) c.rest))⟩

/-- What goes back may be repeated for ever. -/
theorem tallyMany_swing (c : Cursor) (h : c.offset ≤ 1) : swing.tallyMany c = Part.none := by
  have endless (s : Repetition Unit) :
      ∀ t ∈ PFun.fix swing.manyRound s, ¬ s.cursor.offset ≤ 1 := by
    intro t ht
    refine PFun.fixInduction ht fun s _ ih hs => ?_
    have moves : 1 - s.cursor.offset ≠ s.cursor.offset := by omega
    have more : swing.manyRound s = Part.some
        (.inr ⟨() :: s.seen, s.runs + 1, .place (1 - s.cursor.offset) s.cursor.rest⟩) := by
      simp [manyRound, swing, moves]
    exact ih _ (Part.eq_some_iff.1 more) (Nat.sub_le 1 s.cursor.offset)
  exact Part.eq_none_iff.2 fun t ht => endless _ t ht h

end Process

/-! ## Ending -/

/-- The process ends wherever it begins, and replies what the parser does. -/
def Process.Performs (q : Process α) (p : Parser α) : Prop :=
  ∀ c, q.run c = Part.some (p.run c)

namespace Process.Performs

variable {q : Process α} {p : Parser α}

theorem ofParser (p : Parser α) : (Process.ofParser p).Performs p :=
  fun _ => rfl

theorem pure (v : α) : (Pure.pure v : Process α).Performs (Pure.pure v) :=
  fun _ => rfl

theorem bind {next : α → Process β} {next' : α → Parser β} (h : q.Performs p)
    (hnext : ∀ v, (next v).Performs (next' v)) : (q >>= next).Performs (p >>= next') := by
  intro c
  show (q.run c >>= _) = _
  rw [h c, Parser.run_bind, Part.bind_eq_bind, Part.bind_some]
  cases p.run c with
  | ok v d => exact hnext v d
  | fail e d => rfl

theorem map (f : α → β) (h : q.Performs p) : (f <$> q).Performs (f <$> p) :=
  h.bind fun v => pure (f v)

theorem between {opening : Process β} {closing : Process γ} {opening' : Parser β}
    {closing' : Parser γ} (hopening : opening.Performs opening')
    (hclosing : closing.Performs closing') (h : q.Performs p) :
    (Process.between opening closing q).Performs (Parser.between opening' closing' p) :=
  hopening.bind fun _ => h.bind fun value => hclosing.bind fun _ => pure value

theorem attempt (h : q.Performs p) : q.attempt.Performs p.attempt := by
  intro c
  simp only [Process.attempt, Parser.attempt, h c, Part.bind_eq_bind, Part.bind_some]
  cases p.run c <;> rfl

theorem ahead (h : q.Performs p) : q.ahead.Performs p.ahead := by
  intro c
  simp only [Process.ahead, Parser.ahead, h c, Part.bind_eq_bind, Part.bind_some]
  cases p.run c <;> rfl

-- From here on a process compares cursors where the parser asks which is further on.
theorem optional (h : q.Performs p) (hp : p.Advances) : q.optional.Performs p.optional := by
  intro c
  simp only [Process.optional, Parser.optional, h c, Part.bind_eq_bind, Part.bind_some]
  cases hr : p.run c with
  | ok v d => rfl
  | fail e d =>
    rcases (hp.reaches_of_fail hr).eq_or_isPast with rfl | ⟨beyond, past⟩
    · simp [d.isPast_self]
    · simp [past, Nat.ne_of_gt beyond]

theorem choiceOr {qs : List (Process α)} {ps : List (Parser α)}
    (h : List.Forall₂ (fun q p => q.Performs p ∧ p.Advances) qs ps) (e : Failure) (c : Cursor) :
    Process.choiceOr e qs c = Part.some (Parser.choiceOr e ps c) := by
  induction h generalizing e with
  | nil => rfl
  | @cons q p qs ps hq _ ih =>
    obtain ⟨performs, forward⟩ := hq
    rw [Process.choiceOr, performs c, Parser.choiceOr, Part.bind_eq_bind, Part.bind_some]
    cases hr : p.run c with
    | ok v d => rfl
    | fail e' d =>
      rcases (forward.reaches_of_fail hr).eq_or_isPast with rfl | ⟨beyond, past⟩
      · simpa [d.isPast_self] using ih e'
      · simp [past, Nat.ne_of_gt beyond]

theorem choice {qs : List (Process α)} {ps : List (Parser α)}
    (h : List.Forall₂ (fun q p => q.Performs p ∧ p.Advances) qs ps) :
    (Process.choice qs).Performs (Parser.choice ps) :=
  fun c => choiceOr h ⟨.noAlternative, c.offset⟩ c

/-! ## Loops end -/

-- What is left falls in each round that is followed by another one, and so do the characters.
theorem exists_fix_manyRound (h : q.Performs p) (hp : p.Advances) (seen : List α) (n : Nat)
    (c : Cursor) :
    ∃ runs, runs ≤ c.rest.length + 1 ∧
      PFun.fix q.manyRound ⟨seen, n, c⟩ = Part.some ⟨n + runs, Parser.manyOnto p seen c⟩ := by
  rw [Parser.manyOnto]
  cases hr : p.run c with
  | ok v d =>
    have reached := hp.reaches_of_ok hr
    rcases reached.eq_or_isPast with rfl | ⟨moves, past⟩
    · refine ⟨1, Nat.le_add_left 1 _, fix_of_last ?_⟩
      simp [manyRound, h d, hr, d.isPast_self]
    · have := Cursor.left_lt_of_isPast past
      have more : q.manyRound ⟨seen, n, c⟩ = Part.some (.inr ⟨v :: seen, n + 1, d⟩) := by
        simp [manyRound, h c, hr, Nat.ne_of_gt moves]
      obtain ⟨runs, hruns, tally⟩ := exists_fix_manyRound h hp (v :: seen) (n + 1) d
      have fewer := reached.length_lt moves
      refine ⟨runs + 1, by omega, ?_⟩
      rw [fix_of_more more, tally]
      simp [past, Nat.add_assoc, Nat.add_comm 1]
  | fail e d =>
    refine ⟨1, Nat.le_add_left 1 _, fix_of_last ?_⟩
    rcases (hp.reaches_of_fail hr).eq_or_isPast with rfl | ⟨beyond, past⟩
    · simp [manyRound, h d, hr, d.isPast_self]
    · simp [manyRound, h c, hr, past, Nat.ne_of_gt beyond]
termination_by c.left

theorem exists_tallyMany (h : q.Performs p) (hp : p.Advances) (c : Cursor) :
    ∃ runs, runs ≤ c.rest.length + 1 ∧ q.tallyMany c = Part.some ⟨runs, p.many.run c⟩ := by
  obtain ⟨runs, hruns, tally⟩ := h.exists_fix_manyRound hp [] 0 c
  rw [Nat.zero_add] at tally
  exact ⟨runs, hruns, tally⟩

theorem exists_tallyMany1 (h : q.Performs p) (hp : p.Advances) (c : Cursor) :
    ∃ runs, runs ≤ c.rest.length + 2 ∧ q.tallyMany1 c = Part.some ⟨runs, p.many1.run c⟩ := by
  simp only [tallyMany1, h c, Part.bind_eq_bind, Part.bind_some, Parser.run_many1]
  cases hr : p.run c with
  | ok v d =>
    obtain ⟨runs, hruns, tally⟩ := h.exists_fix_manyRound hp [v] 1 d
    have fewer := (hp.reaches_of_ok hr).length_le
    refine ⟨1 + runs, by omega, ?_⟩
    dsimp only
    rw [tally, Parser.manyOnto_eq]
    rfl
  | fail e d => exact ⟨1, by omega, rfl⟩

theorem exists_fix_sepByRound {separator : Process β} {separator' : Parser β} (h : q.Performs p)
    (hp : p.Advances) (hs : separator.Performs separator') (hs' : separator'.Advances)
    (seen : List α) (n : Nat) (c : Cursor) :
    ∃ runs, runs ≤ c.rest.length + 1 ∧
      PFun.fix (q.sepByRound separator) ⟨seen, n, c⟩ =
        Part.some ⟨n + runs, Parser.sepByOnto p separator' seen c⟩ := by
  rw [Parser.sepByOnto]
  cases hw : separator'.run c with
  | fail e d =>
    refine ⟨0, Nat.zero_le _, fix_of_last ?_⟩
    rcases (hs'.reaches_of_fail hw).eq_or_isPast with rfl | ⟨beyond, past⟩
    · simp [sepByRound, hs d, hw, d.isPast_self]
    · simp [sepByRound, hs c, hw, past, Nat.ne_of_gt beyond]
  | ok w d =>
    cases hr : p.run d with
    | ok v f =>
      have reached := (hs'.reaches_of_ok hw).trans (hp.reaches_of_ok hr)
      rcases reached.eq_or_isPast with rfl | ⟨moves, past⟩
      · refine ⟨1, Nat.le_add_left 1 _, fix_of_last ?_⟩
        simp [sepByRound, hs f, hw, h d, hr, f.isPast_self]
      · have := Cursor.left_lt_of_isPast past
        have more : q.sepByRound separator ⟨seen, n, c⟩ =
            Part.some (.inr ⟨v :: seen, n + 1, f⟩) := by
          simp [sepByRound, hs c, hw, h d, hr, Nat.ne_of_gt moves]
        obtain ⟨runs, hruns, tally⟩ := exists_fix_sepByRound h hp hs hs' (v :: seen) (n + 1) f
        have fewer := reached.length_lt moves
        refine ⟨runs + 1, by omega, ?_⟩
        rw [fix_of_more more, tally]
        simp [hr, past, Nat.add_assoc, Nat.add_comm 1]
    | fail e f =>
      refine ⟨1, Nat.le_add_left 1 _, fix_of_last ?_⟩
      rcases (hp.reaches_of_fail hr).eq_or_isPast with rfl | ⟨beyond, past⟩
      · simp [sepByRound, hs c, hw, h f, hr, f.isPast_self]
      · simp [sepByRound, hs c, hw, h d, hr, past, Nat.ne_of_gt beyond]
termination_by c.left

theorem exists_tallySepBy {separator : Process β} {separator' : Parser β} (h : q.Performs p)
    (hp : p.Advances) (hs : separator.Performs separator') (hs' : separator'.Advances)
    (c : Cursor) :
    ∃ runs, runs ≤ c.rest.length + 2 ∧
      q.tallySepBy separator c = Part.some ⟨runs, (p.sepBy separator').run c⟩ := by
  simp only [tallySepBy, h c, Part.bind_eq_bind, Part.bind_some, Parser.sepBy]
  cases hr : p.run c with
  | ok v d =>
    obtain ⟨runs, hruns, tally⟩ := h.exists_fix_sepByRound hp hs hs' [v] 1 d
    have fewer := (hp.reaches_of_ok hr).length_le
    exact ⟨1 + runs, by omega, tally⟩
  | fail e d =>
    refine ⟨1, by omega, ?_⟩
    rcases (hp.reaches_of_fail hr).eq_or_isPast with rfl | ⟨beyond, past⟩
    · simp [d.isPast_self]
    · simp [past, Nat.ne_of_gt beyond]

theorem many (h : q.Performs p) (hp : p.Advances) : q.many.Performs p.many := by
  intro c
  obtain ⟨runs, -, tally⟩ := h.exists_tallyMany hp c
  simp [Process.many, tally]

theorem many1 (h : q.Performs p) (hp : p.Advances) : q.many1.Performs p.many1 := by
  intro c
  obtain ⟨runs, -, tally⟩ := h.exists_tallyMany1 hp c
  simp [Process.many1, tally]

theorem sepBy {separator : Process β} {separator' : Parser β} (h : q.Performs p)
    (hp : p.Advances) (hs : separator.Performs separator') (hs' : separator'.Advances) :
    (q.sepBy separator).Performs (p.sepBy separator') := by
  intro c
  obtain ⟨runs, -, tally⟩ := h.exists_tallySepBy hp hs hs' c
  simp [Process.sepBy, tally]

end Process.Performs

/-! ## Parsers from parts -/

/-- A parser by the parts that it is made of, with any tests and any ways to go on with a value. -/
inductive Program : Type → Type 1 where
  | pure {α : Type} (value : α) : Program α
  | one : Program Char
  | satisfy (wanted : Wanted) (accepts : Char → Bool) : Program Char
  | text (expected : String) : Program (List Char)
  | newline : Program (List Char)
  | endOfInput : Program Unit
  | bind {α β : Type} (first : Program α) (next : α → Program β) : Program β
  | attempt {α : Type} (of : Program α) : Program α
  | ahead {α : Type} (of : Program α) : Program α
  | optional {α : Type} (of : Program α) : Program (Option α)
  | choice {α : Type} {n : Nat} (alternatives : Fin n → Program α) : Program α
  | many {α : Type} (of : Program α) : Program (List α)
  | many1 {α : Type} (of : Program α) : Program (List α)
  | sepBy {α β : Type} (of : Program α) (separator : Program β) : Program (List α)

namespace Program

/-- The parser that is made of the parts. -/
def parser : ∀ {α : Type}, Program α → Parser α
  | _, .pure value => Pure.pure value
  | _, .one => .one
  | _, .satisfy wanted accepts => .satisfy wanted accepts
  | _, .text expected => .text expected
  | _, .newline => .newline
  | _, .endOfInput => .endOfInput
  | _, .bind first next => first.parser >>= fun v => (next v).parser
  | _, .attempt s => s.parser.attempt
  | _, .ahead s => s.parser.ahead
  | _, .optional s => s.parser.optional
  | _, .choice alternatives => .choice (List.ofFn fun i => (alternatives i).parser)
  | _, .many s => s.parser.many
  | _, .many1 s => s.parser.many1
  | _, .sepBy s separator => s.parser.sepBy separator.parser

/-- What is done to read with it. The parts that look at the input have no loop. -/
def process : ∀ {α : Type}, Program α → Process α
  | _, .pure value => Pure.pure value
  | _, .one => .ofParser .one
  | _, .satisfy wanted accepts => .ofParser (.satisfy wanted accepts)
  | _, .text expected => .ofParser (.text expected)
  | _, .newline => .ofParser .newline
  | _, .endOfInput => .ofParser .endOfInput
  | _, .bind first next => first.process >>= fun v => (next v).process
  | _, .attempt s => s.process.attempt
  | _, .ahead s => s.process.ahead
  | _, .optional s => s.process.optional
  | _, .choice alternatives => .choice (List.ofFn fun i => (alternatives i).process)
  | _, .many s => s.process.many
  | _, .many1 s => s.process.many1
  | _, .sepBy s separator => s.process.sepBy separator.process

theorem made (s : Program α) : s.parser.Made := by
  induction s with
  | pure value => exact .pure value
  | one => exact .one
  | satisfy wanted accepts => exact .satisfy wanted accepts
  | text expected => exact .text expected
  | newline => exact .newline
  | endOfInput => exact .endOfInput
  | bind _ _ hfirst hnext => exact .bind hfirst hnext
  | attempt _ h => exact .attempt h
  | ahead _ h => exact .ahead h
  | optional _ h => exact .optional h
  | choice _ h => exact .choice (List.forall_mem_ofFn_iff.2 h)
  | many _ h => exact .many h
  | many1 _ h => exact compositional_made.many1 h
  | sepBy _ _ h hs => exact .sepBy h hs

theorem advances (s : Program α) : s.parser.Advances :=
  s.made.of_compositional compositional_advances

/-- What is done to read with a parser made of parts comes to an end. -/
theorem process_performs (s : Program α) : s.process.Performs s.parser := by
  induction s with
  | pure value => exact .pure value
  | one => exact .ofParser _
  | satisfy wanted accepts => exact .ofParser _
  | text expected => exact .ofParser _
  | newline => exact .ofParser _
  | endOfInput => exact .ofParser _
  | bind _ _ hfirst hnext => exact hfirst.bind hnext
  | attempt _ h => exact h.attempt
  | ahead _ h => exact h.ahead
  | optional s h => exact h.optional s.advances
  | choice alternatives h =>
    refine .choice (List.forall₂_iff_get.2 ⟨by simp, fun i _ hi => ?_⟩)
    simp only [List.get_ofFn]
    exact ⟨h _, (alternatives _).advances⟩
  | many s h => exact h.many s.advances
  | many1 s h => exact h.many1 s.advances
  | sepBy s separator h hs => exact h.sepBy s.advances hs separator.advances

end Program

/-- Whatever the combinators make is made of parts. -/
theorem Parser.Made.exists_program {p : Parser α} (made : p.Made) :
    ∃ s : Program α, s.parser = p := by
  induction made with
  | pure value => exact ⟨.pure value, rfl⟩
  | one => exact ⟨.one, rfl⟩
  | satisfy wanted accepts => exact ⟨.satisfy wanted accepts, rfl⟩
  | text expected => exact ⟨.text expected, rfl⟩
  | newline => exact ⟨.newline, rfl⟩
  | endOfInput => exact ⟨.endOfInput, rfl⟩
  | bind _ _ hfirst hnext =>
    obtain ⟨first, rfl⟩ := hfirst
    choose next hnext using hnext
    obtain rfl := funext hnext
    exact ⟨.bind first next, rfl⟩
  | attempt _ h =>
    obtain ⟨s, rfl⟩ := h
    exact ⟨s.attempt, rfl⟩
  | ahead _ h =>
    obtain ⟨s, rfl⟩ := h
    exact ⟨s.ahead, rfl⟩
  | optional _ h =>
    obtain ⟨s, rfl⟩ := h
    exact ⟨s.optional, rfl⟩
  | @choice _ ps _ h =>
    have alternatives (i : Fin ps.length) : ∃ s : Program _, s.parser = ps[i] :=
      h ps[i] (List.getElem_mem i.isLt)
    choose alternatives hparser using alternatives
    refine ⟨.choice alternatives, ?_⟩
    simp only [Program.parser, hparser]
    exact congrArg Parser.choice (List.ofFn_get ps)
  | many _ h =>
    obtain ⟨s, rfl⟩ := h
    exact ⟨s.many, rfl⟩
  | sepBy _ _ h hs =>
    obtain ⟨s, rfl⟩ := h
    obtain ⟨separator, rfl⟩ := hs
    exact ⟨s.sepBy separator, rfl⟩

end Corpus.Parse
