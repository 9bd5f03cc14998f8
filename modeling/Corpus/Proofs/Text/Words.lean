import Corpus.Text.Segmenter

/-!
# Words keep the text

Where a text is cut is for the boundary rules to say, and they say a lot. What is left when the
cuts are made does not depend on them: **the pieces are the text in order** (`flatten_words`) **and
no piece is empty** (`ne_nil_of_mem_words`), because a cut is made between two characters and only
there. So cutting into words is lossless, whatever the tables hold.
-/

set_option autoImplicit false

namespace Corpus.Text

theorem flatten_wordsFrom (ctx : Context) (piece rest : List Char) :
    (wordsFrom ctx piece rest).flatten = piece.reverse ++ rest := by
  induction rest generalizing ctx piece with
  | nil =>
    show [piece.reverse].flatten = piece.reverse ++ []
    rw [List.flatten_singleton, List.append_nil]
  | cons c rest ih =>
    unfold wordsFrom
    split
    · rw [ih, List.reverse_cons, List.append_assoc]
      rfl
    · rw [List.flatten_cons, ih]
      rfl

-- The piece in hand is never empty: it begins with a character, and is given a new one when cut.
theorem ne_nil_of_mem_wordsFrom {ctx : Context} {piece rest : List Char} (hpiece : piece ≠ []) :
    ∀ w ∈ wordsFrom ctx piece rest, w ≠ [] := by
  have hreverse : ∀ {piece : List Char}, piece ≠ [] → piece.reverse ≠ [] :=
    fun h => mt List.reverse_eq_nil_iff.1 h
  induction rest generalizing ctx piece with
  | nil =>
    intro w hw
    rw [List.mem_singleton.1 hw]
    exact hreverse hpiece
  | cons c rest ih =>
    intro w hw
    unfold wordsFrom at hw
    split at hw
    · exact ih (List.cons_ne_nil c piece) w hw
    · rcases List.mem_cons.1 hw with rfl | hw
      · exact hreverse hpiece
      · exact ih (List.cons_ne_nil c []) w hw

theorem flatten_words (text : List Char) : (words text).flatten = text := by
  cases text with
  | nil => rfl
  | cons c rest => exact flatten_wordsFrom (.start c) [c] rest

theorem ne_nil_of_mem_words {text : List Char} : ∀ w ∈ words text, w ≠ [] := by
  cases text with
  | nil =>
    intro w hw
    cases hw
  | cons c rest => exact ne_nil_of_mem_wordsFrom (List.cons_ne_nil c [])

namespace Segmenter

theorem lossless_words : words.Lossless := by
  intro text
  have hpieces : ((words.pieces text).map String.toList) = Text.words text.toList := by
    show ((Text.words text.toList).map String.ofList).map String.toList = _
    rw [List.map_map]
    exact List.map_id'' (fun _ => String.toList_ofList) _
  rw [hpieces, flatten_words]

theorem ne_empty_of_mem_words {text piece : String} (h : piece ∈ words.pieces text) :
    piece ≠ "" := by
  obtain ⟨w, hw, rfl⟩ := List.mem_map.1 h
  intro hempty
  have hnil : w = [] := by simpa using congrArg String.toList hempty
  exact ne_nil_of_mem_words w hw hnil

end Segmenter

end Corpus.Text
