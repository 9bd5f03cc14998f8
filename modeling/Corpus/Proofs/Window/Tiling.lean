import Corpus.Proofs.Random.Draw
import Corpus.Window.Partition

/-!
# Windows tile their sequence

Cutting with valid sizes succeeds on every stream of words. One cut is described once
(`exists_cut`), with the sizes that were drawn, and an induction on the rounds, of which there are
enough because every window takes at least one text, says of all that they are cut with sizes from
the ranges (`Window.Drawn`). **From there on there are no words and no rounds**: whatever holds of
windows is an induction on how they were drawn.

So each window begins where the one before it ended and holds something, and the last ends with the
sequence: `Window.Tiles` says so, and `exists_partition` that it is what comes of a partition.
-/

set_option autoImplicit false

namespace Corpus

open Corpus.Random

/-- A number in the range. -/
structure SizeRange.Holds (r : SizeRange) (n : Nat) : Prop where
  least : r.least ≤ n
  bound : n < r.bound

/-- Sizes with which every sequence can be cut. -/
structure WindowSizes.Valid (sizes : WindowSizes) : Prop where
  pos : 0 < sizes.window.least
  window : sizes.window.least < sizes.window.bound
  header : sizes.header.least < sizes.header.bound

theorem WindowSizes.check_eq_ok {sizes : WindowSizes} : sizes.check = .ok () ↔ sizes.Valid := by
  unfold WindowSizes.check SizeRange.isEmpty
  constructor
  · intro h
    split at h
    · cases h
    · split at h
      · cases h
      · split at h
        · cases h
        · rename_i hpos hwindow hheader
          exact ⟨Nat.pos_of_ne_zero hpos, by simpa using hwindow, by simpa using hheader⟩
  · rintro ⟨hpos, hwindow, hheader⟩
    simp [Nat.ne_of_gt hpos, Nat.not_le_of_gt hwindow, Nat.not_le_of_gt hheader]

namespace Window

variable {σ : Type} [RandomSource σ] {sizes : WindowSizes}

theorem exists_draw {r : SizeRange} (h : r.least < r.bound) (s : σ) :
    ∃ n t, draw r s = .ok (n, t) ∧ r.Holds n := by
  obtain ⟨n, t, drawn, hleast, hbound⟩ := exists_between h s
  exact ⟨n, t, drawn, hleast, hbound⟩

/-- One cut, by the sizes that are drawn for it. They do not depend on the sequence. -/
theorem exists_cut (h : sizes.Valid) (s : σ) :
    ∃ size header t, sizes.window.Holds size ∧ sizes.header.Holds header ∧
      ∀ len start, cut sizes len start s =
        .ok (⟨start, min (start + size) len, min header (min (start + size) len - start)⟩, t) := by
  obtain ⟨size, t, hsize, windowHolds⟩ := exists_draw h.window s
  obtain ⟨header, u, hheader, headerHolds⟩ := exists_draw h.header t
  refine ⟨size, header, u, windowHolds, headerHolds, ?_⟩
  intro len start
  simp only [cut, hsize, hheader, bind, Except.bind]
  rfl

/-- The windows, in order, are cut from a sequence of `len` texts, from `start` on, with sizes and
headers drawn from their ranges. Where too little is left, a window takes what there is. -/
inductive Drawn (sizes : WindowSizes) (len : Nat) : Nat → List Window → Prop where
  | done : Drawn sizes len len []
  | cons {start size header : Nat} {windows : List Window} (more : start < len)
      (hsize : sizes.window.Holds size) (hheader : sizes.header.Holds header)
      (h : Drawn sizes len (min (start + size) len) windows) :
      Drawn sizes len start
        (⟨start, min (start + size) len, min header (min (start + size) len - start)⟩ :: windows)

/-- Cutting what is left, with as many rounds as there are texts left. -/
theorem exists_partitionWithin (h : sizes.Valid) (len : Nat) {rounds start : Nat}
    (hstart : start ≤ len) (hrounds : len - start ≤ rounds) (s : σ) :
    ∃ windows, partitionWithin sizes len rounds start s = .ok windows ∧
      Drawn sizes len start windows := by
  induction rounds generalizing start s with
  | zero =>
    obtain rfl : start = len := by omega
    exact ⟨[], by simp [partitionWithin], .done⟩
  | succ rounds ih =>
    by_cases more : start < len
    · obtain ⟨size, header, t, windowHolds, headerHolds, hcut⟩ := exists_cut h s
      have pos := h.pos
      have least := windowHolds.least
      -- The window takes at least one text, so one round less is enough for the rest.
      have hnext : min (start + size) len ≤ len := Nat.min_le_right _ _
      obtain ⟨windows, hwindows, drawn⟩ := ih hnext (by omega) t
      refine ⟨_ :: windows, ?_, .cons more windowHolds headerHolds drawn⟩
      rw [partitionWithin, if_pos more, hcut len start]
      show (do let windows ← partitionWithin sizes len rounds (min (start + size) len) t
               pure (_ :: windows)) = _
      rw [hwindows]
      rfl
    · obtain rfl : start = len := by omega
      exact ⟨[], by simp [partitionWithin], .done⟩

/-- With valid sizes every sequence is cut, whatever the words are. -/
theorem exists_drawn (h : sizes.Valid) (len : Nat) (s : σ) :
    ∃ windows, partition sizes len s = .ok windows ∧ Drawn sizes len 0 windows := by
  have limit : roundLimit sizes len = len := if_neg (Nat.ne_of_gt h.pos)
  unfold partition
  rw [limit]
  exact exists_partitionWithin h len (Nat.zero_le len) (Nat.sub_le len 0) s

/-- The windows, in order, are the stretches of a sequence from `start` on and before `stop`, and
none of them is empty. -/
inductive Tiles (stop : Nat) : Nat → List Window → Prop where
  | done : Tiles stop stop []
  | cons {start next header : Nat} {windows : List Window} (hnext : start < next)
      (hstop : next ≤ stop) (hheader : header ≤ next - start) (h : Tiles stop next windows) :
      Tiles stop start (⟨start, next, header⟩ :: windows)

theorem Drawn.tiles {len start : Nat} {windows : List Window} (pos : 0 < sizes.window.least)
    (h : Drawn sizes len start windows) : Tiles len start windows := by
  induction h with
  | done => exact .done
  | cons more hsize _ _ ih =>
    have least := hsize.least
    exact .cons (by omega) (Nat.min_le_right _ _) (Nat.min_le_right _ _) ih

/-- A window of a tiling, by itself: it holds something, does not end behind the sequence, and has
its header within it. -/
theorem Tiles.of_mem {stop start : Nat} {windows : List Window} (h : Tiles stop start windows) :
    ∀ w ∈ windows, w.start < w.stop ∧ w.stop ≤ stop ∧ w.header ≤ w.size := by
  induction h with
  | done => exact List.forall_mem_nil _
  | cons hnext hstop hheader _ ih => exact List.forall_mem_cons.2 ⟨⟨hnext, hstop, hheader⟩, ih⟩

theorem exists_partition (h : sizes.Valid) (len : Nat) (s : σ) :
    ∃ windows, partition sizes len s = .ok windows ∧ Tiles len 0 windows := by
  obtain ⟨windows, hwindows, drawn⟩ := exists_drawn h len s
  exact ⟨windows, hwindows, drawn.tiles h.pos⟩

end Window

end Corpus
