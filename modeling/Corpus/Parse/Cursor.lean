/-!
# Cursors

A cursor is a place in a text that is being read: how many bytes lie behind it, and what is still
ahead. Offsets count bytes of the text's UTF-8 form, but a cursor moves by whole characters, so
it never stands inside one.

Reading gives a new cursor and leaves the old one as it was. To go back is therefore to go on
from an older cursor; nothing is ever undone.

`left`, the number of bytes ahead, is kept beside the characters so that two cursors of one text
are compared without walking it: the one with less left is further on (`Cursor.isPast`). Every
loop that reads ends because this number falls.
-/

set_option autoImplicit false

namespace Corpus.Parse

/-- The size of a text in UTF-8, in bytes. -/
def byteCount (text : List Char) : Nat :=
  text.foldr (fun c bytes => c.utf8Size + bytes) 0

@[simp] theorem byteCount_nil : byteCount [] = 0 := rfl

@[simp] theorem byteCount_cons (c : Char) (text : List Char) :
    byteCount (c :: text) = c.utf8Size + byteCount text := rfl

@[simp] theorem byteCount_append (s t : List Char) :
    byteCount (s ++ t) = byteCount s + byteCount t := by
  induction s with
  | nil => exact (Nat.zero_add _).symm
  | cons c s ih => rw [List.cons_append, byteCount_cons, byteCount_cons, ih, Nat.add_assoc]

/-- A place in a text. -/
structure Cursor where
  /-- The number of bytes behind. -/
  offset : Nat
  /-- What is ahead. -/
  rest : List Char
  /-- The number of bytes ahead. -/
  left : Nat
  left_eq : left = byteCount rest
  deriving DecidableEq, Repr

namespace Cursor

/-- Before the first character of a text. -/
def start (source : List Char) : Cursor :=
  ⟨0, source, byteCount source, rfl⟩

/-- A cursor is known by what is behind and what is ahead. -/
theorem ext {c d : Cursor} (offset : c.offset = d.offset) (rest : c.rest = d.rest) : c = d := by
  obtain ⟨_, _, _, hc⟩ := c
  obtain ⟨_, _, _, hd⟩ := d
  subst hc hd
  simp_all

def atEnd (c : Cursor) : Bool :=
  c.rest.isEmpty

/-- The next character, and the cursor behind it. -/
def next? : Cursor → Option (Char × Cursor)
  | ⟨_, [], _, _⟩ => none
  | ⟨offset, x :: rest, left, left_eq⟩ =>
    some (x, ⟨offset + x.utf8Size, rest, left - x.utf8Size, by simp [left_eq]⟩)

def peek? (c : Cursor) : Option Char :=
  c.rest.head?

/-- The cursor behind the given text, if that text comes next. -/
def skip? : List Char → Cursor → Option Cursor
  | [], c => some c
  | x :: text, c =>
    match c.next? with
    | none => none
    | some (y, d) => if x = y then skip? text d else none

def sees (c : Cursor) (text : List Char) : Bool :=
  text.isPrefixOf c.rest

/-- Whether the first cursor is further on than the second. -/
def isPast (c d : Cursor) : Bool :=
  c.left < d.left

theorem left_lt_of_isPast {c d : Cursor} (h : c.isPast d = true) : c.left < d.left := by
  simpa [isPast] using h

theorem left_lt_of_next? {c d : Cursor} {x : Char} (h : c.next? = some (x, d)) :
    d.left < c.left := by
  obtain ⟨_, rest, _, left_eq⟩ := c
  cases rest with
  | nil => simp [next?] at h
  | cons y rest =>
    simp only [next?, Option.some.injEq, Prod.mk.injEq] at h
    obtain ⟨_, rfl⟩ := h
    have := Char.utf8Size_pos y
    simp only [byteCount_cons] at left_eq
    simp only
    omega

/-- The cursor that many bytes into the rest, if a character ends there. -/
def forward? (c : Cursor) (bytes : Nat) : Option Cursor :=
  if bytes = 0 then some c
  else match _h : c.next? with
    | none => none
    | some (x, d) => if x.utf8Size ≤ bytes then d.forward? (bytes - x.utf8Size) else none
termination_by c.left
decreasing_by exact left_lt_of_next? _h

end Cursor

end Corpus.Parse
