import Corpus.Batch.Output
import Corpus.Proofs.Disk.Around
import Corpus.Proofs.Json.Reading
import Corpus.Proofs.Text.Utf8

/-!
# The corpus file, read again

Three layers are between the records and the file, and each of them is undone by its reader: the
records are laid out as JSON (`Json.readRecords_writtenRecords`), the JSON is encoded as bytes
(`Utf8.decode_encode`), and the bytes replace whatever the file held (`Disk.read_writeText`). So the
file says which records it was made of, and whoever writes it loses nothing.
-/

set_option autoImplicit false

namespace Corpus

open Corpus.Text

/-- The records that a file holds, if it holds JSON records. -/
def Disk.readRecords (d : Disk) (p : Path) : Option (List Record) :=
  match d.readText p with
  | .ok json => Json.readRecords json.toList
  | .error _ => none

section

variable {d d' : Disk} {target : Path} {records : List Record}

theorem writeRecords_eq_ok :
    writeRecords d target records = (.ok (), d') ↔
      d.writeText target (Json.writtenRecords records) = (.ok (), d') := by
  unfold writeRecords
  obtain ⟨_ | _, made⟩ := d.writeText target (Json.writtenRecords records) <;> simp

theorem fst_writeRecords (others : List Record) :
    (writeRecords d target others).1 = (writeRecords d target records).1 := by
  have same := Disk.fst_writeText (d := d) (p := target) (Json.writtenRecords records)
    (Json.writtenRecords others)
  unfold writeRecords
  generalize d.writeText target (Json.writtenRecords others) = answer' at same ⊢
  generalize d.writeText target (Json.writtenRecords records) = answer at same ⊢
  obtain ⟨result, made⟩ := answer
  obtain ⟨result', made'⟩ := answer'
  obtain rfl : result' = result := same
  cases result' <;> rfl

theorem read_writeRecords (h : writeRecords d target records = (.ok (), d')) :
    d'.read target = .ok (Utf8.encode (Json.writtenRecords records)) :=
  Disk.read_writeText (writeRecords_eq_ok.1 h)

theorem readRecords_of_read
    (h : d.read target = .ok (Utf8.encode (Json.writtenRecords records))) :
    d.readRecords target = some records := by
  have text : d.readText target = .ok (String.ofList (Json.writtenRecords records)) := by
    simp only [Disk.readText, h, bind, Except.bind, pure, Except.pure, Utf8.decode_encode]
  unfold Disk.readRecords
  rw [text]
  dsimp only
  rw [String.toList_ofList, Json.readRecords_writtenRecords]

end

/-- **What is written is read back.** Whether records can be written to a file has nothing to do
with the records, and where there is a file they can. The file then holds their JSON and nothing
else, whatever it held before; a JSON reader gives the same records again; and no other records make
the same file. -/
theorem writeRecords_decodes (d : Disk) (target : Path) (records : List Record) :
    (∀ others, (writeRecords d target others).1 = (writeRecords d target records).1) ∧
    (∀ old, d.read target = .ok old → (writeRecords d target records).1 = .ok ()) ∧
    ∀ d', writeRecords d target records = (.ok (), d') →
      d'.read target = .ok (Utf8.encode (Json.writtenRecords records)) ∧
      d'.readRecords target = some records ∧
      ∀ (e e' : Disk) (target' : Path) (others : List Record),
        writeRecords e target' others = (.ok (), e') → e'.read target' = d'.read target →
          others = records := by
  refine ⟨fst_writeRecords, fun old hold => ?_, fun d' hwrite => ?_⟩
  · obtain ⟨d', hd'⟩ := Disk.writeText_of_read hold (Json.writtenRecords records)
    rw [writeRecords_eq_ok.2 hd']
  · have held := read_writeRecords hwrite
    refine ⟨held, readRecords_of_read held, fun e e' target' others hwrite' same => ?_⟩
    have held' := read_writeRecords hwrite'
    rw [same, held] at held'
    have json := congrArg Utf8.decode (Except.ok.inj held')
    rw [Utf8.decode_encode, Utf8.decode_encode] at json
    exact (Json.writtenRecords_injective json).symm

/-- Texts that look like JSON, and characters that JSON spells in another way, over a file that was
no text at all. -/
theorem writeRecords_decodes_overBytes :
    let d : Disk := ⟨.directory [("a.json", .file [0xFF, 0x5B])], []⟩
    let target : Path := ⟨"a.json"⟩
    let records : List Record :=
      [⟨"", "\\u0041\"\x7d]", "[\x7b\"input\": null\x7d]"⟩, ⟨"\x00\t\x1f\x7f\\", "\u2028", "😀\n\r"⟩]
    d.read target = .ok [0xFF, 0x5B] ∧
      ∃ d', writeRecords d target records = (.ok (), d') ∧
        d'.readRecords target = some records := by
  have held : Disk.read ⟨.directory [("a.json", .file [0xFF, 0x5B])], []⟩ ⟨"a.json"⟩ =
      .ok [0xFF, 0x5B] := by
    rfl
  intro d target records
  obtain ⟨-, possible, decodes⟩ := writeRecords_decodes d target records
  have written : writeRecords d target records = (.ok (), (writeRecords d target records).2) :=
    Prod.ext (possible _ held) rfl
  exact ⟨held, _, written, (decodes _ written).2.1⟩

end Corpus
