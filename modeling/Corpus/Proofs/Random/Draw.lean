import Corpus.Random.Source
import Mathlib.Tactic.Ring

/-!
# Draws stay in their range

A draw scales a word `x`, one of `n`, to `x * range / n`, and may add one for a carry out of the
part rounded away. Neither leads out of the range (`scaled_lt`): with the carry the result is still
at most `(x + y / n) * range / n` for some second word `y`, and that is less than `range`.

So a draw from a range that is not empty succeeds, whatever the words are (`exists_between`).
-/

set_option autoImplicit false

namespace Corpus.Random

variable {σ : Type} [RandomSource σ]

theorem next_lt (w : Width) (s : σ) : (next w s).1 < w.words := by
  cases w with
  | narrow => exact (RandomSource.word s).1.toNat_lt_size
  | wide =>
    have low := (RandomSource.word s).1.toNat_lt_size
    have high := (RandomSource.word (RandomSource.word s).2).1.toNat_lt_size
    show (RandomSource.word (RandomSource.word s).2).1.toNat * UInt32.size +
      (RandomSource.word s).1.toNat < UInt64.size
    unfold UInt64.size
    unfold UInt32.size at *
    omega

theorem mul_div_lt {x range bound : Nat} (hx : x < bound) (hr : 0 < range) :
    x * range / bound < range := by
  have hb : 0 < bound := Nat.zero_lt_of_lt hx
  rw [Nat.div_lt_iff_lt_mul hb, Nat.mul_comm range]
  exact Nat.mul_lt_mul_of_pos_right hx hr

theorem carry_lt {x y range bound : Nat} (hx : x < bound) (hy : y < bound) (hr : 0 < range)
    (carry : bound ≤ x * range % bound + y * range / bound) :
    x * range / bound + 1 < range := by
  have hb : 0 < bound := Nat.zero_lt_of_lt hx
  have low : y * range / bound < range := mul_div_lt hy hr
  have parts : bound * (x * range / bound) + x * range % bound = x * range := Nat.div_add_mod _ _
  have next : (x + 1) * range ≤ bound * range := Nat.mul_le_mul_right range hx
  -- A carry means that the parts rounded away add up to a whole.
  have whole : bound * (x * range / bound + 1) < bound * range := by
    calc bound * (x * range / bound + 1)
        = bound * (x * range / bound) + bound := by ring
      _ ≤ x * range + y * range / bound := by omega
      _ < x * range + range := by omega
      _ = (x + 1) * range := by ring
      _ ≤ bound * range := next
  exact Nat.lt_of_mul_lt_mul_left whole

theorem scaled_lt (w : Width) {range : Nat} (hr : 0 < range) (s : σ) :
    (scaled w range s).1 < range := by
  have hx := next_lt w s
  have hy := next_lt w (next w s).2
  unfold scaled
  simp only
  split
  · split
    · rename_i carry
      exact carry_lt hx hy hr carry
    · exact mul_div_lt hx hr
  · exact mul_div_lt hx hr

/-- A range that is not empty always gives a number, and the number is in it. -/
theorem exists_between {least bound : Nat} (h : least < bound) (s : σ) :
    ∃ n t, between least bound s = .ok (n, t) ∧ least ≤ n ∧ n < bound := by
  have hn := scaled_lt (.ofBound bound) (Nat.sub_pos_of_lt h) s
  unfold between
  rw [if_pos h]
  refine ⟨_, _, rfl, Nat.le_add_right _ _, ?_⟩
  show least + (scaled (.ofBound bound) (bound - least) s).1 < bound
  omega

end Corpus.Random
