import Corpus.Text.Utf8

/-!
# Reading back what was written

`encode` writes the bytes that a string is made of (`encode_eq_toUTF8`), and `decode` reads them
back as they were (`decode_encode`). The second is told character by character: a character's first
byte says how many bytes are to follow and is content with the one that does, whatever comes
behind them (`decodeChar_encodeChar`).
-/

set_option autoImplicit false

namespace Corpus.Text.Utf8

/-! ## Bytes -/

theorem toNat_byte {n : Nat} (h : n < 0x100) : (UInt8.ofNat n).toNat = n :=
  UInt8.toNat_ofNat_of_lt h

/-- A byte that may follow is read onto the code point. -/
theorem readTails_cons {tails value v : Nat} {least greatest : UInt8} {bytes : List UInt8}
    (hv : v < 0x40) (hleast : least.toNat ≤ 0x80 + v) (hgreatest : 0x80 + v ≤ greatest.toNat) :
    readTails (tails + 1) least greatest value (.ofNat (0x80 + v) :: bytes) =
      readTails tails 0x80 0xBF (value * 0x40 + v) bytes := by
  have hb : (UInt8.ofNat (0x80 + v)).toNat = 0x80 + v := toNat_byte (by omega)
  have hbounds : least ≤ UInt8.ofNat (0x80 + v) ∧ UInt8.ofNat (0x80 + v) ≤ greatest := by
    rw [UInt8.le_iff_toNat_le, UInt8.le_iff_toNat_le, hb]
    exact ⟨hleast, hgreatest⟩
  rw [readTails, if_pos hbounds, hb, Nat.add_sub_cancel_left]

/-- Behind the first of them, any byte from `0x80` to `0xBF` may follow. -/
theorem readTails_tail {tails value v : Nat} {bytes : List UInt8} (hv : v < 0x40) :
    readTails (tails + 1) 0x80 0xBF value (.ofNat (0x80 + v) :: bytes) =
      readTails tails 0x80 0xBF (value * 0x40 + v) bytes :=
  readTails_cons hv (Nat.le_add_right _ _) (by show 0x80 + v ≤ 0xBF; omega)

theorem lead?_two : ∀ k < 0x20, 2 ≤ k → lead? (.ofNat (0xC0 + k)) = some ⟨1, k, 0x80, 0xBF⟩ := by
  decide

theorem lead?_three : ∀ k < 0x10, lead? (.ofNat (0xE0 + k)) =
    some ⟨2, k, if k = 0 then 0xA0 else 0x80, if k = 0xD then 0x9F else 0xBF⟩ := by
  decide

theorem lead?_four : ∀ k < 5, lead? (.ofNat (0xF0 + k)) =
    some ⟨3, k, if k = 0 then 0x90 else 0x80, if k = 4 then 0x8F else 0xBF⟩ := by
  decide

/-- A character whose bytes begin with a leading byte is what that byte makes of the tails. -/
theorem decodeChar_of_lead {b : UInt8} {bytes left : List UInt8} {l : Lead} {value : Nat}
    (hb : 0x80 ≤ b.toNat) (hl : lead? b = some l)
    (h : readTails l.tails l.least l.greatest l.payload bytes = (some value, left)) :
    decodeChar b bytes = (.ofNat value, left) := by
  have hlead : ¬ b < 0x80 := by
    rw [UInt8.lt_iff_toNat_lt]
    exact Nat.not_lt.2 hb
  unfold decodeChar
  rw [if_neg hlead, hl]
  simp only [h]

/-! ## Characters -/

theorem decodeChar_one {n : Nat} (h : n < 0x80) (rest : List UInt8) :
    decodeChar (.ofNat n) rest = (.ofNat n, rest) := by
  have hb : (UInt8.ofNat n).toNat = n := toNat_byte (by omega)
  have hone : UInt8.ofNat n < 0x80 := by
    rw [UInt8.lt_iff_toNat_lt, hb]
    exact h
  rw [decodeChar, if_pos hone, hb]

theorem decodeChar_two {n : Nat} (hmin : 0x80 ≤ n) (hmax : n < 0x800) (rest : List UInt8) :
    decodeChar (.ofNat (0xC0 + n / 0x40)) (.ofNat (0x80 + n % 0x40) :: rest) =
      (.ofNat n, rest) := by
  have hvalue : n / 0x40 * 0x40 + n % 0x40 = n := by omega
  refine decodeChar_of_lead ?_ (lead?_two (n / 0x40) (by omega) (by omega)) ?_
  · rw [toNat_byte (by omega)]
    omega
  · rw [readTails_tail (Nat.mod_lt n (by decide)), hvalue]
    rfl

theorem decodeChar_three {n : Nat} (hmin : 0x800 ≤ n) (hmax : n < 0x10000)
    (hvalid : n < 0xD800 ∨ 0xDFFF < n) (rest : List UInt8) :
    decodeChar (.ofNat (0xE0 + n / 0x1000))
      (.ofNat (0x80 + n / 0x40 % 0x40) :: .ofNat (0x80 + n % 0x40) :: rest) = (.ofNat n, rest) := by
  have hvalue : (n / 0x1000 * 0x40 + n / 0x40 % 0x40) * 0x40 + n % 0x40 = n := by omega
  refine decodeChar_of_lead ?_ (lead?_three (n / 0x1000) (by omega)) ?_
  · rw [toNat_byte (by omega)]
    omega
  · -- The bounds of the first tail shut out overlong forms below and surrogates above.
    have hleast : (if n / 0x1000 = 0 then 0xA0 else 0x80 : UInt8).toNat ≤
        0x80 + n / 0x40 % 0x40 := by
      split
      · show 0xA0 ≤ _
        omega
      · exact Nat.le_add_right _ _
    have hgreatest : 0x80 + n / 0x40 % 0x40 ≤
        (if n / 0x1000 = 0xD then 0x9F else 0xBF : UInt8).toNat := by
      split
      · show _ ≤ 0x9F
        omega
      · show _ ≤ 0xBF
        omega
    rw [readTails_cons (Nat.mod_lt _ (by decide)) hleast hgreatest,
      readTails_tail (Nat.mod_lt n (by decide)), hvalue]
    rfl

theorem decodeChar_four {n : Nat} (hmin : 0x10000 ≤ n) (hmax : n < 0x110000)
    (rest : List UInt8) :
    decodeChar (.ofNat (0xF0 + n / 0x40000))
      (.ofNat (0x80 + n / 0x1000 % 0x40) :: .ofNat (0x80 + n / 0x40 % 0x40) ::
        .ofNat (0x80 + n % 0x40) :: rest) = (.ofNat n, rest) := by
  have hvalue : ((n / 0x40000 * 0x40 + n / 0x1000 % 0x40) * 0x40 + n / 0x40 % 0x40) * 0x40 +
      n % 0x40 = n := by omega
  refine decodeChar_of_lead ?_ (lead?_four (n / 0x40000) (by omega)) ?_
  · rw [toNat_byte (by omega)]
    omega
  · -- The bounds of the first tail shut out overlong forms below and what is no code point above.
    have hleast : (if n / 0x40000 = 0 then 0x90 else 0x80 : UInt8).toNat ≤
        0x80 + n / 0x1000 % 0x40 := by
      split
      · show 0x90 ≤ _
        omega
      · exact Nat.le_add_right _ _
    have hgreatest : 0x80 + n / 0x1000 % 0x40 ≤
        (if n / 0x40000 = 4 then 0x8F else 0xBF : UInt8).toNat := by
      split
      · show _ ≤ 0x8F
        omega
      · show _ ≤ 0xBF
        omega
    rw [readTails_cons (Nat.mod_lt _ (by decide)) hleast hgreatest,
      readTails_tail (Nat.mod_lt _ (by decide)), readTails_tail (Nat.mod_lt n (by decide)), hvalue]
    rfl

theorem toNat_valid (c : Char) : c.toNat < 0xD800 ∨ 0xDFFF < c.toNat ∧ c.toNat < 0x110000 :=
  c.valid

/-- A character is read back from its bytes, and what comes behind them is left. -/
theorem decodeChar_encodeChar (c : Char) :
    ∃ b tails, encodeChar c = b :: tails ∧
      ∀ rest, decodeChar b (tails ++ rest) = (c, rest) := by
  have hvalid := toNat_valid c
  have hc : Char.ofNat c.toNat = c := Char.ofNat_toNat c
  unfold encodeChar
  dsimp only
  split
  · rename_i hone
    exact ⟨_, _, rfl, fun rest => by rw [List.nil_append, decodeChar_one hone, hc]⟩
  split
  · rename_i hone htwo
    refine ⟨_, _, rfl, fun rest => ?_⟩
    rw [List.singleton_append, decodeChar_two (Nat.not_lt.1 hone) htwo, hc]
  split
  · rename_i _ htwo hthree
    refine ⟨_, _, rfl, fun rest => ?_⟩
    have h := decodeChar_three (Nat.not_lt.1 htwo) hthree (by omega) rest
    rw [hc] at h
    exact h
  · rename_i _ _ hthree
    refine ⟨_, _, rfl, fun rest => ?_⟩
    have h := decodeChar_four (Nat.not_lt.1 hthree) (by omega) rest
    rw [hc] at h
    exact h

/-! ## Texts -/

/-- Reading gives back what was written. -/
theorem decode_encode (text : List Char) : decode (encode text) = text := by
  induction text with
  | nil => exact decode_nil
  | cons c text ih =>
    obtain ⟨b, tails, hbytes, hread⟩ := decodeChar_encodeChar c
    have hencode : encode (c :: text) = b :: (tails ++ encode text) := by
      show encodeChar c ++ encode text = _
      rw [hbytes, List.cons_append]
    rw [hencode, decode_cons, hread, ih]

/-- The bytes of a character are those that Lean gives it. -/
theorem encodeChar_eq (c : Char) : encodeChar c = String.utf8EncodeChar c := by
  have hvalid := toNat_valid c
  have hval : c.val.toNat = c.toNat := rfl
  unfold encodeChar String.utf8EncodeChar
  simp only [hval]
  by_cases hone : c.toNat < 0x80
  · rw [if_pos hone, if_pos (Nat.le_of_lt_succ hone)]
  have hone' : ¬ c.toNat ≤ 0x7f := by omega
  rw [if_neg hone, if_neg hone']
  by_cases htwo : c.toNat < 0x800
  · have hlead : c.toNat / 64 % 0x20 = c.toNat / 0x40 := by omega
    rw [if_pos htwo, if_pos (Nat.le_of_lt_succ htwo), hlead, Nat.add_comm (c.toNat / 0x40),
      Nat.add_comm (c.toNat % 0x40)]
  have htwo' : ¬ c.toNat ≤ 0x7ff := by omega
  rw [if_neg htwo, if_neg htwo']
  by_cases hthree : c.toNat < 0x10000
  · have hlead : c.toNat / 4096 % 0x10 = c.toNat / 0x1000 := by omega
    rw [if_pos hthree, if_pos (Nat.le_of_lt_succ hthree), hlead, Nat.add_comm (c.toNat / 0x1000),
      Nat.add_comm (c.toNat / 64 % 0x40), Nat.add_comm (c.toNat % 0x40)]
  · have hthree' : ¬ c.toNat ≤ 0xffff := by omega
    have hlead : c.toNat / 262144 % 0x08 = c.toNat / 0x40000 := by omega
    rw [if_neg hthree, if_neg hthree', hlead, Nat.add_comm (c.toNat / 0x40000),
      Nat.add_comm (c.toNat / 4096 % 0x40), Nat.add_comm (c.toNat / 64 % 0x40),
      Nat.add_comm (c.toNat % 0x40)]

/-- What is written are the bytes that a string is made of. -/
theorem encode_eq_toUTF8 (source : String) : encode source.toList = source.toUTF8.data.toList := by
  have hchars : encode source.toList = source.toList.flatMap String.utf8EncodeChar := by
    unfold encode
    rw [funext encodeChar_eq]
  rw [hchars, String.toUTF8_eq_toByteArray, ← String.utf8Encode_toList]
  exact (List.toList_data_toByteArray).symm

end Corpus.Text.Utf8
