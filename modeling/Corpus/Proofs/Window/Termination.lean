import Corpus.Proofs.Window.Tiling
import Corpus.Random.Cycle

/-!
# Which sizes are safe to cut with

`WindowSizes.check` turns sizes away for three reasons, and each is a way in which cutting goes
wrong: it may draw from an empty range, which is a fault, or it may cut one empty window after the
other and never get on. **The check turns away nothing else** (`check_eq_ok_iff_endsWithin`): with
the sizes that it accepts, a sequence is cut in at most as many rounds as it has texts, whatever the
words are.

The limit on rounds has no part in this. What has come to an end with some limit comes to the same
end with any higher one (`partitionWithin_of_le`), so ending is said of all limits that are high
enough, and not ending of all limits there are.
-/

set_option autoImplicit false

namespace Corpus

open Corpus.Random

/-! ## A source of zeros -/

namespace Random

/-- The source all of whose words are zero. -/
def Cycle.zeros : Cycle :=
  ⟨0, [], []⟩

theorem next_zeros (w : Width) : next w Cycle.zeros = (0, Cycle.zeros) := by
  cases w <;> rfl

/-- No part of a product with zero is rounded away, so a second word is never asked for. -/
theorem scaled_zeros (w : Width) (range : Nat) :
    scaled w range Cycle.zeros = (0, Cycle.zeros) := by
  unfold scaled
  simp only [next_zeros, Nat.zero_mul, Nat.zero_div, Nat.zero_mod, Nat.not_lt_zero, if_false]

theorem between_zeros {least bound : Nat} (h : least < bound) :
    between least bound Cycle.zeros = .ok (least, Cycle.zeros) := by
  unfold between
  rw [if_pos h, scaled_zeros]
  rfl

theorem between_eq_error {σ : Type} [RandomSource σ] {least bound : Nat} (h : bound ≤ least)
    (s : σ) : between least bound s = .error .emptyRange :=
  if_neg (Nat.not_lt_of_le h)

end Random

theorem SizeRange.isEmpty_iff {r : SizeRange} : r.isEmpty = true ↔ r.bound ≤ r.least :=
  decide_eq_true_iff

theorem SizeRange.isEmpty_eq_false_iff {r : SizeRange} :
    r.isEmpty = false ↔ r.least < r.bound := by
  rw [← Bool.not_eq_true, SizeRange.isEmpty_iff, Nat.not_le]

namespace Window

variable {σ : Type} [RandomSource σ] {sizes : WindowSizes} {len : Nat}

/-! ## Rounds -/

/-- One round, and those after it. -/
theorem partitionWithin_succ {start : Nat} (more : start < len) (rounds : Nat) (s : σ) :
    partitionWithin sizes len (rounds + 1) start s = (do
      let (w, t) ← cut sizes len start s
      let windows ← partitionWithin sizes len rounds w.stop t
      pure (w :: windows)) := by
  rw [partitionWithin, if_pos more]

theorem partitionWithin_of_not_lt {start : Nat} (ended : ¬ start < len) (rounds : Nat) (s : σ) :
    partitionWithin sizes len rounds start s = .ok [] := by
  unfold partitionWithin
  exact if_neg ended

/-- What has come to an end comes to the same end if more rounds are allowed. -/
theorem partitionWithin_of_le {rounds allowed start : Nat} {s : σ} {windows : List Window}
    (h : partitionWithin sizes len rounds start s = .ok windows) (hle : rounds ≤ allowed) :
    partitionWithin sizes len allowed start s = .ok windows := by
  induction rounds generalizing allowed start s windows with
  | zero =>
    by_cases more : start < len
    · rw [partitionWithin, if_pos more] at h
      cases h
    · rw [partitionWithin_of_not_lt more] at h ⊢
      exact h
  | succ rounds ih =>
    by_cases more : start < len
    · obtain ⟨allowed, rfl⟩ := Nat.exists_eq_add_of_le' (Nat.le_trans (Nat.le_add_left 1 _) hle)
      rw [partitionWithin_succ more] at h ⊢
      cases hcut : cut sizes len start s with
      | error e =>
        rw [hcut] at h
        cases h
      | ok step =>
        obtain ⟨w, t⟩ := step
        rw [hcut] at h
        cases hrest : partitionWithin sizes len rounds w.stop t with
        | error e =>
          simp only [bind, Except.bind, hrest, reduceCtorEq] at h
        | ok others =>
          have same := ih hrest (Nat.le_of_succ_le_succ hle)
          simp only [bind, Except.bind, hrest, same] at h ⊢
          exact h
    · rw [partitionWithin_of_not_lt more] at h ⊢
      exact h

/-- Cutting comes to an end in at most so many rounds, with windows and without a fault. -/
def EndsWithin (sizes : WindowSizes) (len rounds : Nat) (s : σ) : Prop :=
  ∃ windows, ∀ allowed, rounds ≤ allowed →
    partitionWithin sizes len allowed 0 s = .ok windows

theorem endsWithin_of_valid (h : sizes.Valid) (len : Nat) (s : σ) :
    EndsWithin sizes len len s := by
  obtain ⟨windows, hwindows, -⟩ :=
    exists_partitionWithin h len (Nat.zero_le len) (Nat.sub_le len 0) s
  exact ⟨windows, fun _ hle => partitionWithin_of_le hwindows hle⟩

/-! ## Empty ranges -/

theorem draw_eq_error {r : SizeRange} (h : r.isEmpty = true) (s : σ) :
    draw r s = .error .emptyRange :=
  between_eq_error (SizeRange.isEmpty_iff.1 h) s

theorem exists_draw_of_not_isEmpty {r : SizeRange} (h : r.isEmpty ≠ true) (s : σ) :
    ∃ n t, draw r s = .ok (n, t) := by
  obtain ⟨n, t, drawn, -⟩ :=
    exists_draw (SizeRange.isEmpty_eq_false_iff.1 (eq_false_of_ne_true h)) s
  exact ⟨n, t, drawn⟩

theorem cut_of_isEmpty (h : sizes.window.isEmpty = true ∨ sizes.header.isEmpty = true)
    (start : Nat) (s : σ) : cut sizes len start s = .error .emptyRange := by
  by_cases hwindow : sizes.window.isEmpty = true
  · simp only [cut, draw_eq_error hwindow, bind, Except.bind]
  · -- There is a size, so the fault is the header's.
    obtain ⟨n, t, drawn⟩ := exists_draw_of_not_isEmpty hwindow s
    have hheader := draw_eq_error (h.resolve_left hwindow) t
    simp only [cut, drawn, hheader, bind, Except.bind]

/-- The first round is a fault, and no later one is reached. -/
theorem partitionWithin_of_isEmpty
    (h : sizes.window.isEmpty = true ∨ sizes.header.isEmpty = true) (hlen : 0 < len)
    (rounds : Nat) (s : σ) :
    partitionWithin sizes len (rounds + 1) 0 s = .error .emptyRange := by
  rw [partitionWithin_succ hlen, cut_of_isEmpty h]
  rfl

theorem roundLimit_pos (sizes : WindowSizes) (hlen : 0 < len) : 0 < roundLimit sizes len := by
  unfold roundLimit
  split
  · exact Nat.mul_pos hlen (by decide)
  · exact hlen

theorem partition_of_isEmpty (h : sizes.window.isEmpty = true ∨ sizes.header.isEmpty = true)
    (hlen : 0 < len) (s : σ) : partition sizes len s = .error .emptyRange := by
  obtain ⟨rounds, hrounds⟩ := Nat.exists_eq_add_of_le' (roundLimit_pos sizes hlen)
  unfold partition
  rw [hrounds]
  exact partitionWithin_of_isEmpty h hlen rounds s

/-! ## Empty windows -/

/-- Where windows may be empty, zeros make them so. -/
theorem cut_zeros (hleast : sizes.window.least = 0) (hwindow : sizes.window.isEmpty = false)
    (hheader : sizes.header.isEmpty = false) {start : Nat} (hstart : start ≤ len) :
    cut sizes len start Cycle.zeros = .ok (⟨start, start, 0⟩, Cycle.zeros) := by
  have size := between_zeros (SizeRange.isEmpty_eq_false_iff.1 hwindow)
  have header := between_zeros (SizeRange.isEmpty_eq_false_iff.1 hheader)
  rw [hleast] at size
  simp only [cut, draw, hleast, size, header, bind, Except.bind, Nat.add_zero,
    Nat.min_eq_left hstart, Nat.sub_self, Nat.min_zero]
  rfl

/-- A window that is empty leaves everything to the next round. -/
theorem partitionWithin_zeros (hleast : sizes.window.least = 0)
    (hwindow : sizes.window.isEmpty = false) (hheader : sizes.header.isEmpty = false)
    (hlen : 0 < len) (rounds : Nat) :
    partitionWithin sizes len rounds 0 Cycle.zeros = .error .endless := by
  induction rounds with
  | zero => rw [partitionWithin, if_pos hlen]
  | succ rounds ih =>
    rw [partitionWithin_succ hlen, cut_zeros hleast hwindow hheader (Nat.zero_le len)]
    simp only [bind, Except.bind, ih]

/-! ## What the check says -/

/-- Sizes that are turned away do not come to an end with one text and zeros. -/
theorem not_endsWithin_zeros (h : ¬ sizes.Valid) : ¬ EndsWithin sizes 1 1 Cycle.zeros := by
  rintro ⟨windows, ends⟩
  have ended := ends 1 (Nat.le_refl 1)
  by_cases hempty : sizes.window.isEmpty = true ∨ sizes.header.isEmpty = true
  · rw [partitionWithin_of_isEmpty hempty Nat.one_pos 0] at ended
    cases ended
  · simp only [not_or, Bool.not_eq_true] at hempty
    obtain ⟨hwindow, hheader⟩ := hempty
    have hleast : sizes.window.least = 0 := by
      by_contra pos
      exact h ⟨Nat.pos_of_ne_zero pos, SizeRange.isEmpty_eq_false_iff.1 hwindow,
        SizeRange.isEmpty_eq_false_iff.1 hheader⟩
    rw [partitionWithin_zeros hleast hwindow hheader Nat.one_pos] at ended
    cases ended

/-- **The check accepts exactly the sizes with which cutting always ends**, for every length within
as many rounds as there are texts, and for every stream of words. Of the sizes that it turns away,
those with an empty range are a fault on every sequence that is not empty, and the others may go on
for ever. -/
theorem check_eq_ok_iff_endsWithin (sizes : WindowSizes) :
    (sizes.check = .ok () ↔
      ∀ {σ : Type} [RandomSource σ] (len : Nat) (s : σ), EndsWithin sizes len len s) ∧
    (sizes.window.isEmpty = true ∨ sizes.header.isEmpty = true →
      ∀ {σ : Type} [RandomSource σ] (len : Nat) (s : σ), 0 < len →
        partition sizes len s = .error .emptyRange) ∧
    Fault.emptyRange.message = "cannot sample empty range" ∧
    (sizes.window.least = 0 → sizes.window.isEmpty = false → sizes.header.isEmpty = false →
      ∀ len rounds, 0 < len →
        partitionWithin sizes len rounds 0 Cycle.zeros = .error .endless) := by
  refine ⟨⟨?ends, ?valid⟩, ?empty, rfl, ?endless⟩
  case ends =>
    intro h σ _ len s
    exact endsWithin_of_valid (WindowSizes.check_eq_ok.1 h) len s
  case valid =>
    intro ends
    rw [WindowSizes.check_eq_ok]
    by_contra invalid
    exact not_endsWithin_zeros invalid (ends 1 Cycle.zeros)
  case empty =>
    intro h σ _ len s hlen
    exact partition_of_isEmpty h hlen s
  case endless =>
    intro hleast hwindow hheader len rounds hlen
    exact partitionWithin_zeros hleast hwindow hheader hlen rounds

/-- Sizes that are accepted, a header range that is empty, and windows that may be. -/
theorem check_eq_ok_iff_endsWithin_three :
    (WindowSizes.check ⟨⟨1, 2⟩, ⟨0, 1⟩⟩ = .ok () ∧
      EndsWithin ⟨⟨1, 2⟩, ⟨0, 1⟩⟩ 3 3 Cycle.zeros) ∧
    (SizeRange.isEmpty ⟨4, 4⟩ = true ∧
      partition ⟨⟨1, 2⟩, ⟨4, 4⟩⟩ 3 Cycle.zeros = .error .emptyRange) ∧
    ∀ rounds, partitionWithin ⟨⟨0, 5⟩, ⟨1, 3⟩⟩ 3 rounds 0 Cycle.zeros = .error .endless := by
  have valid : WindowSizes.check ⟨⟨1, 2⟩, ⟨0, 1⟩⟩ = .ok () := rfl
  have empty : SizeRange.isEmpty ⟨4, 4⟩ = true := rfl
  refine ⟨⟨valid, (check_eq_ok_iff_endsWithin _).1.1 valid 3 Cycle.zeros⟩,
    ⟨empty, (check_eq_ok_iff_endsWithin _).2.1 (.inr empty) 3 Cycle.zeros (by decide)⟩, ?_⟩
  intro rounds
  exact (check_eq_ok_iff_endsWithin _).2.2.2 rfl rfl rfl 3 rounds (by decide)

end Window

end Corpus
