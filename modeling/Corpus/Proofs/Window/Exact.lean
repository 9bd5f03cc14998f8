import Corpus.Proofs.Window.Tiling
import Corpus.Random.Cycle
import Mathlib.Data.List.Chain

/-!
# Windows have the sizes asked for

A partition leaves nothing out, cuts nothing twice and keeps to its ranges. `Window.Exact` says so
in terms of the windows alone: where each of them begins and ends, how large it is and how much of
it is header. **The end of the sequence is the one excuse for a window that is too small**, so only
the last window may use it, and a header is shorter than its range only where it is its whole
window.

Each field is an induction on how the windows were drawn (`Window.Drawn`). What was drawn beyond
the end of the sequence is cut off, and that is the whole argument: a window with another one
behind it did not reach the end, so nothing of it was cut off.
-/

set_option autoImplicit false

namespace Corpus

open Corpus.Random

namespace Window

/-- A window that is not empty and keeps to its ranges, but need not have the least size. -/
structure Fits (sizes : WindowSizes) (w : Window) : Prop where
  size_pos : 1 ≤ w.size
  size_lt : w.size < sizes.window.bound
  header_ge : min sizes.header.least w.size ≤ w.header
  header_le : w.header ≤ w.size
  header_lt : w.header < sizes.header.bound

/-- Windows that cover a sequence of `len` texts exactly, each of the size asked for. -/
structure Exact (sizes : WindowSizes) (len : Nat) (windows : List Window) : Prop where
  nil_iff : windows = [] ↔ len = 0
  first : ∀ w ∈ windows.head?, w.start = 0
  next : windows.IsChain fun w v => v.start = w.stop
  last : ∀ w ∈ windows.getLast?, w.stop = len
  fits : ∀ w ∈ windows, w.Fits sizes
  full : ∀ w ∈ windows.dropLast, sizes.window.least ≤ w.size

variable {sizes : WindowSizes} {len start : Nat} {windows : List Window}

/-- One window, as it was drawn. -/
theorem fits_of_drawn (pos : 0 < sizes.window.least) {size header : Nat} (more : start < len)
    (hsize : sizes.window.Holds size) (hheader : sizes.header.Holds header) :
    Fits sizes
      ⟨start, min (start + size) len, min header (min (start + size) len - start)⟩ := by
  obtain ⟨sizeLeast, sizeBound⟩ := hsize
  obtain ⟨headerLeast, headerBound⟩ := hheader
  constructor <;> simp only [Window.size] <;> omega

namespace Drawn

theorem eq_nil_iff (h : Drawn sizes len start windows) : windows = [] ↔ start = len := by
  cases h with
  | done => exact ⟨fun _ => rfl, fun _ => rfl⟩
  | cons more _ _ _ =>
    constructor
    · intro nil
      cases nil
    · intro ended
      exact absurd ended (Nat.ne_of_lt more)

theorem start_eq (h : Drawn sizes len start windows) : ∀ w ∈ windows.head?, w.start = start := by
  intro w hw
  cases h with
  | done => cases hw
  | cons _ _ _ _ =>
    cases hw
    rfl

theorem isChain (h : Drawn sizes len start windows) :
    windows.IsChain fun w v => v.start = w.stop := by
  induction h with
  | done => exact .nil
  | cons _ _ _ behind ih =>
    rw [List.isChain_cons]
    exact ⟨behind.start_eq, ih⟩

theorem stop_eq (h : Drawn sizes len start windows) : ∀ w ∈ windows.getLast?, w.stop = len := by
  induction h with
  | done =>
    intro w hw
    cases hw
  | @cons start size header windows _ _ _ behind ih =>
    intro w hw
    cases windows with
    | nil =>
      cases hw
      exact behind.eq_nil_iff.1 rfl
    | cons v windows =>
      rw [List.getLast?_cons_cons] at hw
      exact ih w hw

theorem fits (pos : 0 < sizes.window.least) (h : Drawn sizes len start windows) :
    ∀ w ∈ windows, w.Fits sizes := by
  induction h with
  | done => exact List.forall_mem_nil _
  | cons more hsize hheader _ ih =>
    exact List.forall_mem_cons.2 ⟨fits_of_drawn pos more hsize hheader, ih⟩

theorem least_le (h : Drawn sizes len start windows) :
    ∀ w ∈ windows.dropLast, sizes.window.least ≤ w.size := by
  induction h with
  | done => exact List.forall_mem_nil _
  | @cons start size header windows more hsize _ behind ih =>
    cases windows with
    | nil => exact List.forall_mem_nil _
    | cons v windows =>
      rw [List.dropLast_cons_cons, List.forall_mem_cons]
      refine ⟨?_, ih⟩
      -- There is a window behind this one, so it ends before the sequence does.
      have ended : min (start + size) len ≠ len := fun ended => by
        cases behind.eq_nil_iff.2 ended
      have least := hsize.least
      simp only [Window.size]
      omega

theorem exact (pos : 0 < sizes.window.least) (h : Drawn sizes len 0 windows) :
    Exact sizes len windows where
  nil_iff := h.eq_nil_iff.trans eq_comm
  first := h.start_eq
  next := h.isChain
  last := h.stop_eq
  fits := h.fits pos
  full := h.least_le

end Drawn

/-- **With valid sizes a partition is exact**, for every length and every stream of words. -/
theorem exists_exact_partition {σ : Type} [RandomSource σ] (h : sizes.check = .ok ()) (len : Nat)
    (s : σ) : ∃ windows, partition sizes len s = .ok windows ∧ Exact sizes len windows := by
  have valid := WindowSizes.check_eq_ok.1 h
  obtain ⟨windows, hwindows, drawn⟩ := exists_drawn valid len s
  exact ⟨windows, hwindows, drawn.exact valid.pos⟩

/-- The largest words there are, and a last window that is too small. -/
theorem exists_exact_partition_greatest :
    WindowSizes.check ⟨⟨2, 5⟩, ⟨1, 3⟩⟩ = .ok () ∧
      partition ⟨⟨2, 5⟩, ⟨1, 3⟩⟩ 9 (⟨0xFFFFFFFF, [], []⟩ : Cycle) =
        .ok [⟨0, 4, 2⟩, ⟨4, 8, 2⟩, ⟨8, 9, 1⟩] ∧
      Exact ⟨⟨2, 5⟩, ⟨1, 3⟩⟩ 9 [⟨0, 4, 2⟩, ⟨4, 8, 2⟩, ⟨8, 9, 1⟩] := by
  have valid : WindowSizes.check ⟨⟨2, 5⟩, ⟨1, 3⟩⟩ = .ok () := rfl
  have cut : partition ⟨⟨2, 5⟩, ⟨1, 3⟩⟩ 9 (⟨0xFFFFFFFF, [], []⟩ : Cycle) =
      .ok [⟨0, 4, 2⟩, ⟨4, 8, 2⟩, ⟨8, 9, 1⟩] := by
    decide +kernel
  obtain ⟨windows, hwindows, exact⟩ :=
    exists_exact_partition valid 9 (⟨0xFFFFFFFF, [], []⟩ : Cycle)
  rw [cut] at hwindows
  cases hwindows
  exact ⟨valid, cut, exact⟩

end Window

end Corpus
