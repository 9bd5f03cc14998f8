import Corpus.Batch.Run
import Corpus.Proofs.Source.Prose
import Corpus.Proofs.Text.Utf8
import Corpus.Proofs.Text.Words
import Corpus.Proofs.Window.Records
import Corpus.Random.Cycle

/-!
# Natural language is reproduced

The records of a text file, put one behind the other, are the file: every character comes back,
blanks included, however the windows fall. Unlike with code nothing is layout here, since the
tokens hold their blanks and the joiner is empty.

The way is the whole way of a file through a batch, from bytes to records (`outcome_text`). It
cannot fail, because natural language has no lexical errors, and it asks one thing of the
segmenter, that it is lossless. Cutting into words is.
-/

set_option autoImplicit false

namespace Corpus

open Corpus.Parse Corpus.Text

/-! ## Records without a joiner -/

theorem intercalate_nil_left {α : Type} (texts : List (List α)) :
    ([] : List α).intercalate texts = texts.flatten := by
  induction texts with
  | nil => rfl
  | cons text texts ih =>
    cases texts with
    | nil => rw [List.intercalate_singleton, List.flatten_singleton]
    | cons next texts =>
      rw [List.intercalate_cons_cons, ih, List.append_nil]
      rfl

theorem toList_join {r : Rendering} (hr : r.joiner = "") (texts : List String) :
    (r.join texts).toList = texts.flatMap String.toList := by
  unfold Rendering.join
  rw [String.toList_intercalate, hr]
  exact (intercalate_nil_left _).trans List.flatMap_def.symm

/-- Without a label there are no instructions. -/
theorem instruction_record {r : Rendering} (hr : r.label = "") (texts : Array String)
    (w : Window) : (r.record texts w).instruction = "" := by
  unfold Rendering.record Rendering.instruction
  rw [hr]
  rfl

/-! ## From bytes to records -/

theorem readText_of_read {d : Disk} {p : Path} {source : String}
    (h : d.read p = .ok source.toUTF8.data.toList) : d.readText p = .ok source := by
  unfold Disk.readText
  rw [h, ← Utf8.encode_eq_toUTF8]
  show Except.ok (String.ofList (Utf8.decode (Utf8.encode source.toList))) = Except.ok source
  rw [Utf8.decode_encode, String.ofList_toList]

theorem tokens_text (s : Segmenter) (source : String) :
    FileKind.text.tokens s source = .ok ⟨proseTokens s source, none⟩ := rfl

/-- A text file whose material has records comes out with these, and nothing is told but its
name. -/
theorem outcome_of_records {σ : Type} [RandomSource σ] {d : Disk} {p : Path} {source : String}
    {s : Segmenter} {sizes : WindowSizes} {random : σ} {records : List Record}
    (hread : d.readText p = .ok source)
    (hrecords : FileKind.text.rendering.records sizes
      (FileKind.text.material s (proseTokens s source)) random = .ok records) :
    (⟨p, .text⟩ : SourceFile).outcome d s sizes random = .ok ⟨.ok records, [.file ⟨p, .text⟩]⟩ := by
  unfold SourceFile.outcome
  simp only [hread, tokens_text, hrecords]
  rfl

/-- **The records of a text file reproduce it.** Whatever the string whose UTF-8 the file holds, it
is lexed, no text that is put into windows is empty, and the file comes out with records that have
no instructions and whose outputs concatenate to the string: with any lossless segmenter, any valid
sizes and any random words. Cutting into words is lossless, and makes no empty pieces. -/
theorem outcome_text :
    (∀ {σ : Type} [RandomSource σ] (d : Disk) (p : Path) (source : String) (s : Segmenter)
        (sizes : WindowSizes) (random : σ),
      d.read p = .ok source.toUTF8.data.toList → s.Lossless → sizes.check = .ok () →
      ∃ found records,
        d.readText p = .ok source ∧
        FileKind.text.tokens s source = .ok found ∧
        (∀ text ∈ FileKind.text.material s found.tokens, text ≠ "") ∧
        FileKind.text.rendering.records sizes (FileKind.text.material s found.tokens) random =
          .ok records ∧
        (⟨p, .text⟩ : SourceFile).outcome d s sizes random =
          .ok ⟨.ok records, [.file ⟨p, .text⟩]⟩ ∧
        (∀ r ∈ records, r.instruction = "") ∧
        String.join (records.map (·.output)) = source) ∧
    Segmenter.words.Lossless ∧
    ∀ text, ∀ piece ∈ Segmenter.words.pieces text, piece ≠ "" := by
  refine ⟨?file, Segmenter.lossless_words, fun _ _ => Segmenter.ne_empty_of_mem_words⟩
  case file =>
    intro σ _ d p source s sizes random hread hs hsizes
    have hprose : ∀ t ∈ proseTokens s source, t.IsProse := isProse_of_mem_proseTokens
    have hmaterial := material_of_isProse (s := s) hprose
    have htext := readText_of_read hread
    obtain ⟨windows, hrecords, tiles⟩ := exists_records (WindowSizes.check_eq_ok.1 hsizes)
      FileKind.text.rendering (FileKind.text.material s (proseTokens s source)) random
    refine ⟨⟨proseTokens s source, none⟩, _, htext, rfl, ?_, hrecords,
      outcome_of_records htext hrecords, ?_, ?_⟩
    · intro text hmem
      have hmem' : text ∈ (proseTokens s source).map (·.text) := hmaterial ▸ hmem
      obtain ⟨t, ht, rfl⟩ := List.mem_map.1 hmem'
      exact (hprose t ht).text
    · intro r hr
      obtain ⟨w, -, rfl⟩ := List.mem_map.1 hr
      exact instruction_record rfl _ w
    · rw [← String.toList_inj, String.toList_join, List.flatMap_map,
        flatMap_output (toList_join rfl) tiles, hmaterial, List.flatMap_map]
      exact flatMap_proseTokens hs source

/-- A disk with one text file, which holds a letter of two bytes, a line end, a blank and an
ideograph of three bytes. -/
def Disk.twoLines : Disk :=
  ⟨.directory [("a.txt", .file [0xC3, 0xA9, 0x0A, 0x20, 0xE4, 0xB8, 0xAD])], []⟩

theorem outcome_text_twoLines :
    let source := "é\n 中"
    let random : Random.Cycle := ⟨7, [0xFFFFFFFF], []⟩
    let sizes : WindowSizes := ⟨⟨2, 4⟩, ⟨0, 2⟩⟩
    Disk.twoLines.read ⟨"a.txt"⟩ = .ok source.toUTF8.data.toList ∧
    Segmenter.words.Lossless ∧ sizes.check = .ok () ∧
    ∃ found records,
      Disk.twoLines.readText ⟨"a.txt"⟩ = .ok source ∧
      FileKind.text.tokens .words source = .ok found ∧
      (∀ text ∈ FileKind.text.material .words found.tokens, text ≠ "") ∧
      FileKind.text.rendering.records sizes (FileKind.text.material .words found.tokens) random =
        .ok records ∧
      (⟨⟨"a.txt"⟩, .text⟩ : SourceFile).outcome Disk.twoLines .words sizes random =
        .ok ⟨.ok records, [.file ⟨⟨"a.txt"⟩, .text⟩]⟩ ∧
      (∀ r ∈ records, r.instruction = "") ∧
      String.join (records.map (·.output)) = source := by
  intro source random sizes
  have read : Disk.twoLines.read ⟨"a.txt"⟩ = .ok source.toUTF8.data.toList := by
    rfl
  have valid : sizes.check = .ok () := rfl
  exact ⟨read, Segmenter.lossless_words, valid,
    outcome_text.1 Disk.twoLines _ source .words sizes random read Segmenter.lossless_words valid⟩

end Corpus
