import Corpus.Parse.Match

/-!
# Cursors by what is ahead

What a parser does depends on the text ahead of the cursor, and the bytes behind only move the
offsets that it reports. `Cursor.place offset rest` makes that visible: it is the cursor with that
many bytes behind and that text ahead, and **every cursor is one** (`eq_place`).

A statement about a parser then speaks of two lists, the text read and the text left, and of one
sum, the offset plus the bytes read. The lemmas here say what each move of a cursor is at a place;
the parsers that look at the input themselves are in `Proofs/Parse/Cut.lean`.
-/

set_option autoImplicit false

namespace Corpus.Parse

theorem byteCount_pos {text : List Char} (h : text ≠ []) : 0 < byteCount text := by
  obtain ⟨x, rest, rfl⟩ := List.exists_cons_of_ne_nil h
  have := Char.utf8Size_pos x
  rw [byteCount_cons]
  omega

/-- Two ways to cut a text at the same offset are one. -/
theorem append_inj_of_byteCount {s s' t t' : List Char} (h : s ++ t = s' ++ t')
    (hs : byteCount s = byteCount s') : s = s' ∧ t = t' := by
  induction s generalizing s' with
  | nil =>
    cases s' with
    | nil => exact ⟨rfl, h⟩
    | cons x s' =>
      have := byteCount_pos (List.cons_ne_nil x s')
      rw [byteCount_nil] at hs
      omega
  | cons x s ih =>
    cases s' with
    | nil =>
      have := byteCount_pos (List.cons_ne_nil x s)
      rw [byteCount_nil] at hs
      omega
    | cons y s' =>
      obtain ⟨rfl, hrest⟩ := List.cons_eq_cons.1 h
      obtain ⟨rfl, rfl⟩ := ih hrest (Nat.add_left_cancel hs)
      exact ⟨rfl, rfl⟩

namespace Cursor

/-- The cursor with so many bytes behind and the given text ahead. -/
def place (offset : Nat) (rest : List Char) : Cursor :=
  ⟨offset, rest, byteCount rest, (start rest).left_eq⟩

theorem eq_place (c : Cursor) : c = place c.offset c.rest :=
  Cursor.ext rfl rfl

variable (o : Nat) (r : List Char)

theorem start_eq_place : start r = place 0 r := rfl

@[simp] theorem offset_place : (place o r).offset = o := rfl

@[simp] theorem rest_place : (place o r).rest = r := rfl

@[simp] theorem left_place : (place o r).left = byteCount r := rfl

@[simp] theorem atEnd_place : (place o r).atEnd = r.isEmpty := rfl

@[simp] theorem next?_place_nil : (place o []).next? = none := rfl

@[simp] theorem next?_place_cons (x : Char) :
    (place o (x :: r)).next? = some (x, place (o + x.utf8Size) r) := by
  simp [place, next?]

theorem skip?_place_append (text : List Char) :
    (place o (text ++ r)).skip? text = some (place (o + byteCount text) r) := by
  induction text generalizing o with
  | nil => rfl
  | cons x text ih => simp [skip?, ih, Nat.add_assoc]

theorem skip?_place_eq_none {o : Nat} {text r : List Char} (h : ¬ text <+: r) :
    (place o r).skip? text = none := by
  induction text generalizing o r with
  | nil => exact absurd (List.nil_prefix) h
  | cons x text ih =>
    cases r with
    | nil => rfl
    | cons y r =>
      rw [skip?, next?_place_cons]
      by_cases hxy : x = y
      · subst hxy
        have hr : ¬ text <+: r := fun hr => h (List.cons_prefix_cons.2 ⟨rfl, hr⟩)
        simp [ih hr]
      · simp [hxy]

/-- A cursor is past another one of the same text if something was read between them. -/
theorem isPast_place {o o' : Nat} {text r : List Char} :
    (place o' r).isPast (place o (text ++ r)) = !text.isEmpty := by
  cases text with
  | nil => simp [isPast]
  | cons x text =>
    have := byteCount_pos (List.cons_ne_nil x text)
    simp only [isPast, left_place, byteCount_append, List.isEmpty_cons, Bool.not_false,
      decide_eq_true_eq]
    omega

theorem isPast_place_cons {o o' : Nat} {x : Char} {r : List Char} :
    (place o' r).isPast (place o (x :: r)) = true := by
  rw [← List.singleton_append, isPast_place]
  rfl

theorem isPast_self (c : Cursor) : c.isPast c = false := by
  simp [isPast]

end Cursor

end Corpus.Parse
