import Corpus.Proofs.Window.Tiling
import Corpus.Record

/-!
# Records of tiled sequences

The records of a sequence of texts are made of its windows, so what tiling says of windows is said
here of texts: the stretches that the outputs are joined from, one after the other, are the
sequence.
-/

set_option autoImplicit false

namespace Corpus

/-- The texts of a window. -/
def Window.stretch {α : Type} (w : Window) (texts : Array α) : List α :=
  (texts.extract w.start w.stop).toList

/-- What tiles a sequence covers it, in order and without an overlap. -/
theorem Window.Tiles.flatMap_stretch {α : Type} {start stop : Nat} {windows : List Window}
    (h : Tiles stop start windows) (texts : Array α) :
    windows.flatMap (·.stretch texts) = (texts.extract start stop).toList := by
  induction h with
  | done => rw [Array.extract_eq_empty_of_le (Nat.min_le_left _ _)]; rfl
  | @cons start next header windows hnext hstop _ _ ih =>
    have joined :
        texts.extract start next ++ texts.extract next stop = texts.extract start stop := by
      rw [Array.extract_append_extract, Nat.min_eq_left (Nat.le_of_lt hnext),
        Nat.max_eq_right hstop]
    rw [List.flatMap_cons, ih, ← joined, Array.toList_append]
    rfl

theorem Window.Tiles.flatMap_stretch_all {α : Type} {texts : List α} {windows : List Window}
    (h : Tiles texts.length 0 windows) : windows.flatMap (·.stretch texts.toArray) = texts := by
  rw [h.flatMap_stretch, Array.extract_eq_self_of_le (Nat.le_of_eq List.size_toArray)]

/-- With valid sizes there are records, those of windows that tile the sequence. -/
theorem exists_records {σ : Type} [RandomSource σ] {sizes : WindowSizes} (h : sizes.Valid)
    (r : Rendering) (texts : List String) (s : σ) :
    ∃ windows, r.records sizes texts s = .ok (windows.map (r.record texts.toArray)) ∧
      Window.Tiles texts.length 0 windows := by
  obtain ⟨windows, hwindows, tiles⟩ := Window.exists_partition h texts.length s
  refine ⟨windows, ?_, tiles⟩
  unfold Rendering.records
  rw [hwindows]
  rfl

theorem output_record (r : Rendering) (texts : Array String) (w : Window) :
    (r.record texts w).output = r.join (w.stretch texts) := rfl

/-- What is told of a joined stretch text by text is told so of the outputs of tiled records. -/
theorem flatMap_output {α : Type} {r : Rendering} {f : String → List α}
    (hf : ∀ texts, f (r.join texts) = texts.flatMap f) {texts : List String}
    {windows : List Window} (tiles : Window.Tiles texts.length 0 windows) :
    (windows.map (r.record texts.toArray)).flatMap (f ·.output) = texts.flatMap f := by
  calc (windows.map (r.record texts.toArray)).flatMap (f ·.output)
      = windows.flatMap fun w => f (r.join (w.stretch texts.toArray)) := by
        rw [List.flatMap_map]
        simp only [output_record]
    _ = windows.flatMap fun w => (w.stretch texts.toArray).flatMap f := by
        simp only [hf]
    _ = (windows.flatMap (·.stretch texts.toArray)).flatMap f := List.flatMap_assoc.symm
    _ = texts.flatMap f := by rw [tiles.flatMap_stretch_all]

end Corpus
