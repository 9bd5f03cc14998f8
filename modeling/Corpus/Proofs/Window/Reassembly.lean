import Corpus.Proofs.Window.Records
import Corpus.Random.Cycle
import Mathlib.Data.List.Forall2

/-!
# Records reassemble their sequence

To join texts is not to concatenate them: the joiner stands between two texts and nowhere else. So
**joining what was joined by parts gives the whole only if no part is empty**
(`intercalate_flatten`); a part without texts would put a joiner where there is none. Windows are
never empty, whatever their texts are, so the outputs of records reassemble the sequence with any
joiner, also with one that occurs in the texts or is empty itself.

What a record shows of its part of the sequence is `Record.Shows`. The input is the join of some
first texts of it, none or all included, and so the output begins with it
(`exists_intercalate_take`).
-/

set_option autoImplicit false

namespace Corpus

/-! ## Joining by parts -/

/-- Parts that are not empty, joined each and then joined, are the join of all their texts. -/
theorem intercalate_flatten (joiner : String) {parts : List (List String)}
    (h : ∀ part ∈ parts, part ≠ []) :
    joiner.intercalate (parts.map joiner.intercalate) = joiner.intercalate parts.flatten := by
  induction parts with
  | nil => rfl
  | cons part parts ih =>
    have hpart : part ≠ [] := h part List.mem_cons_self
    have hparts : ∀ part ∈ parts, part ≠ [] := fun p hp => h p (List.mem_cons_of_mem part hp)
    cases parts with
    | nil => simp
    | cons next parts =>
      have more : (next :: parts).flatten ≠ [] := by
        rw [List.flatten_cons]
        exact List.append_ne_nil_of_left_ne_nil (hparts next List.mem_cons_self) _
      rw [List.map_cons, String.intercalate_cons_of_ne_nil (by simp), ih hparts,
        List.flatten_cons (l := part), String.intercalate_append_of_ne_nil hpart more]

/-- A join begins with the join of any number of its first texts. -/
theorem exists_intercalate_take (joiner : String) (texts : List String) (n : Nat) :
    ∃ more, joiner.intercalate texts = joiner.intercalate (texts.take n) ++ more := by
  by_cases none_first : texts.take n = []
  · refine ⟨joiner.intercalate texts, ?_⟩
    rw [none_first]
    simp
  · by_cases none_behind : texts.drop n = []
    · refine ⟨"", ?_⟩
      rw [List.take_of_length_le (List.drop_eq_nil_iff.1 none_behind), String.append_empty]
    · refine ⟨joiner ++ joiner.intercalate (texts.drop n), ?_⟩
      rw [← String.append_assoc, ← String.intercalate_append_of_ne_nil none_first none_behind,
        List.take_append_drop]

/-! ## Records -/

/-- The record shows a slice of a sequence: all of it as its output, and some first texts of it as
its input, which its instruction repeats under the label, if there is one. -/
structure Record.Shows (record : Record) (r : Rendering) (slice : List String) : Prop where
  output : record.output = r.join slice
  input : ∃ header, header ≤ slice.length ∧ record.input = r.join (slice.take header)
  instruction : record.instruction = if r.label = "" then "" else r.label ++ ": " ++ record.input

/-- The input is what the output begins with. -/
theorem Record.Shows.exists_output_eq {record : Record} {r : Rendering} {slice : List String}
    (h : record.Shows r slice) : ∃ more, record.output = record.input ++ more := by
  obtain ⟨header, -, hinput⟩ := h.input
  rw [h.output, hinput]
  exact exists_intercalate_take r.joiner slice header

theorem length_stretch {α : Type} {w : Window} {texts : List α} (h : w.stop ≤ texts.length) :
    (w.stretch texts.toArray).length = w.size := by
  show (texts.toArray.extract w.start w.stop).toList.length = w.stop - w.start
  rw [Array.length_toList, Array.size_extract, List.size_toArray, Nat.min_eq_left h]

theorem stretch_ne_nil {α : Type} {w : Window} {texts : List α} (h : w.start < w.stop)
    (h' : w.stop ≤ texts.length) : w.stretch texts.toArray ≠ [] := by
  apply List.ne_nil_of_length_pos
  rw [length_stretch h']
  exact Nat.sub_pos_of_lt h

theorem shows_record (r : Rendering) {texts : List String} {w : Window}
    (h : w.stop ≤ texts.length) (header : w.header ≤ w.size) :
    (r.record texts.toArray w).Shows r (w.stretch texts.toArray) where
  output := rfl
  input := ⟨w.header, (length_stretch h).symm ▸ header, rfl⟩
  instruction := by
    unfold Rendering.record Rendering.instruction
    simp

/-- **The records of a sequence reassemble it, with any joiner.** There are slices of the sequence,
none of them empty and all together the sequence, one for each record, and each record shows its
slice. So the outputs, joined as texts are, give what the texts of the sequence give, and each
output begins with its input. -/
theorem records_reassemble {σ : Type} [RandomSource σ] {sizes : WindowSizes}
    (h : sizes.check = .ok ()) (r : Rendering) (texts : List String) (s : σ) :
    ∃ (records : List Record) (slices : List (List String)),
      r.records sizes texts s = .ok records ∧
      slices.flatten = texts ∧
      (∀ slice ∈ slices, slice ≠ []) ∧
      List.Forall₂ (Record.Shows · r ·) records slices ∧
      r.join (records.map (·.output)) = r.join texts ∧
      ∀ record ∈ records, ∃ more, record.output = record.input ++ more := by
  obtain ⟨windows, hrecords, tiles⟩ := exists_records (WindowSizes.check_eq_ok.1 h) r texts s
  have parts : ∀ w ∈ windows, (w.stretch texts.toArray) ≠ [] := by
    intro w hw
    obtain ⟨pos, stop_le, -⟩ := tiles.of_mem w hw
    exact stretch_ne_nil pos stop_le
  have shows : ∀ w ∈ windows, (r.record texts.toArray w).Shows r (w.stretch texts.toArray) := by
    intro w hw
    obtain ⟨-, stop_le, header⟩ := tiles.of_mem w hw
    exact shows_record r stop_le header
  have whole : (windows.map (·.stretch texts.toArray)).flatten = texts := by
    rw [← List.flatMap_def, tiles.flatMap_stretch_all]
  have nonempty : ∀ slice ∈ windows.map (·.stretch texts.toArray), slice ≠ [] :=
    List.forall_mem_map.2 parts
  refine ⟨_, windows.map (·.stretch texts.toArray), hrecords, whole, nonempty, ?_, ?_, ?_⟩
  · rw [List.forall₂_map_left_iff, List.forall₂_map_right_iff, List.forall₂_same]
    exact shows
  · calc r.join ((windows.map (r.record texts.toArray)).map (·.output))
        = r.join ((windows.map (·.stretch texts.toArray)).map r.join) := by
          rw [List.map_map, List.map_map]
          rfl
      _ = r.join (windows.map (·.stretch texts.toArray)).flatten :=
          intercalate_flatten r.joiner nonempty
      _ = r.join texts := by rw [whole]
  · intro record hrecord
    obtain ⟨w, hw, rfl⟩ := List.mem_map.1 hrecord
    exact (shows w hw).exists_output_eq

/-- Texts that are empty and texts that hold the joiner, with a header that is its whole window and
one of no texts. -/
theorem records_reassemble_joiners :
    let sizes : WindowSizes := ⟨⟨2, 4⟩, ⟨0, 4⟩⟩
    let s : Random.Cycle := ⟨7, [0xFFFFFFFF, 0x50000000], []⟩
    let r : Rendering := ⟨"c", ","⟩
    let texts := ["", ",", "a,", "", "b", ","]
    let records : List Record := [⟨"c: ,,", ",,", ",,"⟩, ⟨"c: ", "", "a,,"⟩, ⟨"c: b", "b", "b,,"⟩]
    sizes.check = .ok () ∧
    r.records sizes texts s = .ok records ∧
    (∃ slices : List (List String), slices.flatten = texts ∧ (∀ slice ∈ slices, slice ≠ []) ∧
      List.Forall₂ (Record.Shows · r ·) records slices) ∧
    r.join (records.map (·.output)) = r.join texts ∧
    ∀ record ∈ records, ∃ more, record.output = record.input ++ more := by
  intro sizes s r texts records
  have valid : sizes.check = .ok () := rfl
  have made : r.records sizes texts s = .ok records := by
    decide +kernel
  obtain ⟨found, slices, hfound, whole, nonempty, shows, joined, begins⟩ :=
    records_reassemble valid r texts s
  obtain rfl : found = records := Except.ok.inj (hfound.symm.trans made)
  exact ⟨valid, made, ⟨slices, whole, nonempty, shows⟩, joined, begins⟩

end Corpus
