/-!
# UTF-8

Files hold bytes and the corpus is made of text. `encode` writes a text as UTF-8. `decode` reads
any bytes at all: what is not UTF-8 becomes the replacement character, once for every maximal
piece that begins like a character and does not go on like one. So a damaged file still gives a
text, and the damage stays where it was.

A character is a leading byte and some tail bytes. The leading byte fixes how many tails follow
and which bytes the first of them may be (`Lead`); that narrower range is what shuts out overlong
forms, surrogates and code points beyond the last.
-/

set_option autoImplicit false

namespace Corpus.Text.Utf8

def encodeChar (c : Char) : List UInt8 :=
  let n := c.toNat
  if n < 0x80 then [.ofNat n]
  else if n < 0x800 then
    [.ofNat (0xC0 + n / 0x40), .ofNat (0x80 + n % 0x40)]
  else if n < 0x10000 then
    [.ofNat (0xE0 + n / 0x1000), .ofNat (0x80 + n / 0x40 % 0x40), .ofNat (0x80 + n % 0x40)]
  else
    [.ofNat (0xF0 + n / 0x40000), .ofNat (0x80 + n / 0x1000 % 0x40),
      .ofNat (0x80 + n / 0x40 % 0x40), .ofNat (0x80 + n % 0x40)]

def encode (text : List Char) : List UInt8 :=
  text.flatMap encodeChar

/-- What a leading byte says: how many tail bytes follow, its share of the code point, and the
least and greatest byte that the first tail may be. -/
structure Lead where
  tails : Nat
  payload : Nat
  least : UInt8
  greatest : UInt8
  deriving DecidableEq, Repr

/-- Reads a byte as a leading byte of two or more. -/
def lead? (b : UInt8) : Option Lead :=
  let n := b.toNat
  if 0xC2 ≤ n && n ≤ 0xDF then some ⟨1, n - 0xC0, 0x80, 0xBF⟩
  else if n == 0xE0 then some ⟨2, 0, 0xA0, 0xBF⟩
  else if n == 0xED then some ⟨2, 0xD, 0x80, 0x9F⟩
  else if 0xE1 ≤ n && n ≤ 0xEF then some ⟨2, n - 0xE0, 0x80, 0xBF⟩
  else if n == 0xF0 then some ⟨3, 0, 0x90, 0xBF⟩
  else if 0xF1 ≤ n && n ≤ 0xF3 then some ⟨3, n - 0xF0, 0x80, 0xBF⟩
  else if n == 0xF4 then some ⟨3, 4, 0x80, 0x8F⟩
  else none

/-- Reads the given number of tail bytes onto a code point, the first of them between the two
bounds. Stops before the first byte that is no tail; the code point is then missing. -/
def readTails : Nat → UInt8 → UInt8 → Nat → List UInt8 → Option Nat × List UInt8
  | 0, _, _, value, bytes => (some value, bytes)
  | _ + 1, _, _, _, [] => (none, [])
  | tails + 1, least, greatest, value, b :: bytes =>
    if least ≤ b ∧ b ≤ greatest then
      readTails tails 0x80 0xBF (value * 0x40 + (b.toNat - 0x80)) bytes
    else (none, b :: bytes)

theorem length_readTails_le (tails : Nat) (least greatest : UInt8) (value : Nat)
    (bytes : List UInt8) :
    (readTails tails least greatest value bytes).2.length ≤ bytes.length := by
  induction tails generalizing least greatest value bytes with
  | zero => simp [readTails]
  | succ tails ih =>
    cases bytes with
    | nil => simp [readTails]
    | cons b bytes =>
      simp only [readTails]
      split
      · exact Nat.le_succ_of_le (ih _ _ _ bytes)
      · exact Nat.le_refl _

/-- Stands for what cannot be read. -/
def replacement : Char := '\uFFFD'

/-- Reads the character that begins with the given byte, and gives what is left after it. -/
def decodeChar (b : UInt8) (bytes : List UInt8) : Char × List UInt8 :=
  if b < 0x80 then (.ofNat b.toNat, bytes)
  else match lead? b with
    | none => (replacement, bytes)
    | some l =>
      match readTails l.tails l.least l.greatest l.payload bytes with
      | (some value, left) => (.ofNat value, left)
      | (none, left) => (replacement, left)

theorem length_decodeChar_le (b : UInt8) (bytes : List UInt8) :
    (decodeChar b bytes).2.length ≤ bytes.length := by
  unfold decodeChar
  split
  · exact Nat.le_refl _
  · split
    · exact Nat.le_refl _
    · rename_i l _
      have := length_readTails_le l.tails l.least l.greatest l.payload bytes
      split <;> simp_all

/-- Reads bytes as text behind the characters already read, which are given backwards. -/
def decodeOnto (text : List Char) : List UInt8 → List Char
  | [] => text.reverse
  | b :: bytes => decodeOnto ((decodeChar b bytes).1 :: text) (decodeChar b bytes).2
termination_by bytes => bytes.length
decreasing_by exact Nat.lt_succ_of_le (length_decodeChar_le b bytes)

theorem decodeOnto_eq (text : List Char) (bytes : List UInt8) :
    decodeOnto text bytes = text.reverse ++ decodeOnto [] bytes := by
  cases bytes with
  | nil => simp [decodeOnto]
  | cons b bytes =>
    have := length_decodeChar_le b bytes
    rw [decodeOnto, decodeOnto, decodeOnto_eq (_ :: text), decodeOnto_eq [_]]
    simp
termination_by bytes.length

/-- Reads bytes as text. Every sequence of bytes can be read. -/
def decode (bytes : List UInt8) : List Char :=
  decodeOnto [] bytes

@[simp] theorem decode_nil : decode [] = [] := by
  simp [decode, decodeOnto]

/-- Reading goes character by character. -/
theorem decode_cons (b : UInt8) (bytes : List UInt8) :
    decode (b :: bytes) = (decodeChar b bytes).1 :: decode (decodeChar b bytes).2 := by
  rw [decode, decodeOnto, decodeOnto_eq]
  rfl

end Corpus.Text.Utf8
