import Corpus.Parse.Parser

/-!
# Repetition

`many`, `many1` and `sepBy` run a parser again and again while it moves. **A round that does not
move is the last**, whether it fails or accepts, and it adds nothing; so repetition ends for every
parser, also for one that accepts without reading. A failure that has moved is passed on: the
round had begun to match.

Each loop carries the values so far backwards. `manyOnto_eq` and `sepByOnto_eq` say that what has
been collected changes nothing but the front of the result.
-/

set_option autoImplicit false

namespace Corpus.Parse.Parser

variable {α β : Type}

/-- Repeats a parser, behind the values already collected, which are given backwards. -/
def manyOnto (p : Parser α) (seen : List α) (c : Cursor) : Reply (List α) :=
  match p.run c with
  | .ok v d =>
    if _moved : d.isPast c = true then manyOnto p (v :: seen) d else .ok seen.reverse c
  | .fail e d => if d.isPast c then .fail e d else .ok seen.reverse c
termination_by c.left
decreasing_by exact Cursor.left_lt_of_isPast _moved

theorem manyOnto_eq (p : Parser α) (seen : List α) (c : Cursor) :
    manyOnto p seen c = (manyOnto p [] c).map (seen.reverse ++ ·) := by
  rw [manyOnto, manyOnto]
  split
  · rename_i v d _
    split
    · rename_i h
      have := Cursor.left_lt_of_isPast h
      rw [manyOnto_eq p (v :: seen) d, manyOnto_eq p [v] d]
      cases manyOnto p [] d <;> simp
    · simp
  · split <;> simp
termination_by c.left

/-- Zero or more. -/
def many (p : Parser α) : Parser (List α) :=
  ⟨manyOnto p []⟩

/-- Repetition, round by round: a round that moves adds its value to those of the rounds after. -/
theorem run_many (p : Parser α) (c : Cursor) :
    (many p).run c =
      match p.run c with
      | .ok v d => if d.isPast c then ((many p).run d).map (v :: ·) else .ok [] c
      | .fail e d => if d.isPast c then .fail e d else .ok [] c := by
  show manyOnto p [] c = _
  rw [manyOnto]
  cases p.run c with
  | ok v d =>
    by_cases h : d.isPast c = true
    · simp only [h, dif_pos, if_true]
      exact manyOnto_eq p [v] d
    · simp [h]
  | fail e d => rfl

/-- One or more. The first must accept; from there on it is `many`. -/
def many1 (p : Parser α) : Parser (List α) := do
  let first ← p
  let more ← many p
  pure (first :: more)

/-- Repeats a separator and a parser, behind the values already collected. A separator with
nothing after it is not read: the cursor stands before it. -/
def sepByOnto (p : Parser α) (separator : Parser β) (seen : List α) (c : Cursor) :
    Reply (List α) :=
  match separator.run c with
  | .fail e d => if d.isPast c then .fail e d else .ok seen.reverse c
  | .ok _ d =>
    match p.run d with
    | .ok v f =>
      if _moved : f.isPast c = true then sepByOnto p separator (v :: seen) f else .ok seen.reverse c
    | .fail e f => if f.isPast d then .fail e f else .ok seen.reverse c
termination_by c.left
decreasing_by exact Cursor.left_lt_of_isPast _moved

theorem sepByOnto_eq (p : Parser α) (separator : Parser β) (seen : List α) (c : Cursor) :
    sepByOnto p separator seen c = (sepByOnto p separator [] c).map (seen.reverse ++ ·) := by
  rw [sepByOnto, sepByOnto]
  split
  · split <;> simp
  · split
    · rename_i v f _
      split
      · rename_i h
        have := Cursor.left_lt_of_isPast h
        rw [sepByOnto_eq p separator (v :: seen) f, sepByOnto_eq p separator [v] f]
        cases sepByOnto p separator [] f <;> simp
      · simp
    · split <;> simp
termination_by c.left

/-- The rounds after the first, one by one. -/
theorem sepByOnto_nil (p : Parser α) (separator : Parser β) (c : Cursor) :
    sepByOnto p separator [] c =
      match separator.run c with
      | .fail e d => if d.isPast c then .fail e d else .ok [] c
      | .ok _ d =>
        match p.run d with
        | .ok v f => if f.isPast c then (sepByOnto p separator [] f).map (v :: ·) else .ok [] c
        | .fail e f => if f.isPast d then .fail e f else .ok [] c := by
  rw [sepByOnto]
  cases separator.run c with
  | fail e d => rfl
  | ok _ d =>
    cases hp : p.run d with
    | fail e f => simp only [hp, List.reverse_nil]
    | ok v f =>
      by_cases h : f.isPast c = true
      · simp only [hp, h, dif_pos, if_true]
        exact sepByOnto_eq p separator [v] f
      · simp [hp, h]

/-- Zero or more, with a separator between each two. -/
def sepBy (p : Parser α) (separator : Parser β) : Parser (List α) :=
  ⟨fun c =>
    match p.run c with
    | .ok v d => sepByOnto p separator [v] d
    | .fail e d => if d.isPast c then .fail e d else .ok [] c⟩

end Corpus.Parse.Parser
