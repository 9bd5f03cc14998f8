import Corpus.Proofs.Batch.Listing
import Corpus.Proofs.Batch.Outcomes
import Corpus.Proofs.Batch.Output

/-!
# Running again where the output is

The corpus file may be written among the sources, as a new file or over an old one. A run
after that reads the tree that the first one has written to, and still

> **it gives the same batch**, and writing that leaves the disk as it is.

The file is no source, by its name, however the path is spelled that the listing would give it. So
the two trees are the same in all places where sources are (`Disk.Aside`), and each source is listed
with the same path and reads the same there (`Disk.listed_elsewhere`). Listings are in strict order,
so the places of the files in them are the same as well, and with those the seeds.
-/

set_option autoImplicit false

namespace Corpus

open Corpus.Text

namespace Disk

/-- A tree with unique names, spelled as names are, in which no directory is at the place. -/
structure IsSound (changed : Place) (d : Disk) : Prop where
  proper : d.tree.Proper
  spelled : d.tree.Spelled
  free : ∀ below, d.tree.at? changed ≠ some (.directory below)

/-- Two disks that differ at one place, and no path that ends in the name there is one of a
source. -/
structure Aside (changed : Place) (d d' : Disk) : Prop where
  home : d'.home = d.home
  same : Node.SameBut changed d.tree d'.tree
  before : d.IsSound changed
  after : d'.IsSound changed
  kindless : ∀ name, changed.getLast? = some name → ∀ q : Path,
    q.components.getLast? = some (.name name) → FileKind.ofPath? q = none

variable {d d' : Disk} {target root : Path} {changed : Place} {f : SourceFile}
variable {s : Segmenter} {sizes : WindowSizes} {seed : UInt64}

namespace Aside

theorem symm (h : Aside changed d d') : Aside changed d' d :=
  ⟨h.home.symm, h.same.symm, h.after, h.before, h.kindless⟩

/-- A source is listed on both disks and reads the same there. -/
theorem listed (h : Aside changed d d') (hf : f ∈ d.sourcesAt root) :
    f ∈ d'.sourcesAt root ∧ d'.readText f.path = d.readText f.path := by
  obtain ⟨n, place, bytes, hfind, there, listed, hpath, hkind⟩ :=
    (mem_sourcesAt h.before.proper).1 hf
  obtain ⟨start, way, -⟩ := exists_leadsTo_of_find hfind
  -- Were it where the disks differ, its path would end in a name of no kind.
  have elsewhere : start ++ place ≠ changed := by
    intro at_changed
    obtain ⟨name, last, called⟩ := exists_name_of_listed h.before.spelled hfind way there
    rw [at_changed] at last
    rw [hpath, h.kindless name last _ called] at hkind
    cases hkind
  obtain ⟨n', hfind', there', reads⟩ :=
    listed_elsewhere h.home h.same h.before.free h.before.spelled hfind way there elsewhere
  rw [← hpath] at reads
  refine ⟨?_, reads⟩
  exact (mem_sourcesAt h.after.proper).2 ⟨n', place, bytes, hfind', there', listed, hpath, hkind⟩

theorem sourcesAt_eq (h : Aside changed d d') (root : Path) :
    d'.sourcesAt root = d.sourcesAt root := by
  apply List.Subset.antisymm_of_pairwise
    (sourcesAt_pairwise h.after.proper h.after.spelled root)
    (sourcesAt_pairwise h.before.proper h.before.spelled root)
  · intro f hf
    exact (h.symm.listed hf).1
  · intro f hf
    exact (h.listed hf).1

theorem sources_eq (h : Aside changed d d') (roots : List Path) :
    d'.sources roots = d.sources roots := by
  unfold sources
  rw [funext h.sourcesAt_eq]

/-- A batch knows nothing of the place where the disks differ. -/
theorem runBatch_eq (h : Aside changed d d') (roots : List Path) (s : Segmenter)
    (sizes : WindowSizes) (seed : UInt64) :
    runBatch d' roots s sizes seed = runBatch d roots s sizes seed := by
  have reads : ∀ f ∈ d.sources roots, d'.readText f.path = d.readText f.path := by
    intro f hf
    obtain ⟨root, -, hf⟩ := List.mem_flatMap.1 hf
    exact (h.listed hf).2
  unfold runBatch
  simp only [h.sources_eq, outcomesFrom_congr reads]

end Aside

/-- A file whose name is none of a source is written aside. -/
theorem Target.aside (g : d.Target target) (proper : d.tree.Proper) (spelled : d.tree.Spelled)
    (kindless : FileKind.ofPath? target = none) (bytes : List UInt8) :
    Aside g.place d (g.written bytes) where
  home := rfl
  same := g.sameBut bytes
  before := ⟨proper, spelled, g.at?_place_ne_directory⟩
  after := by
    refine ⟨g.proper_written bytes proper, g.spelled_written bytes spelled, ?_⟩
    intro below there
    rw [g.at?_written] at there
    cases there
  kindless := by
    intro name last q called
    obtain rfl : g.name = name := by
      rw [Target.place, List.getLast?_concat] at last
      exact Option.some.inj last
    rw [← kindless]
    exact FileKind.ofPath?_eq (called.trans g.isName_and_getLast?.2.symm)

/-- What a file holds already is written to it without any change. -/
theorem writeText_of_held {text : List Char} (h : d.read target = .ok (Utf8.encode text)) :
    d.writeText target text = (.ok (), d) := by
  obtain ⟨g, -⟩ := exists_target_of_read h
  obtain ⟨start, way, there⟩ := exists_leadsTo_of_find (find_of_read h)
  rw [g.place_eq h way] at there
  rw [g.writeText_eq (makeDirectories_around h), Target.written, Node.put_eq_self there]

end Disk

/-- **A seeded run can be repeated on the tree it has written to.** If the directory of the target
was there before and the name of the target is not that of a source, the run gives the same batch
again, with the same log, and writing it again changes nothing. -/
theorem runBatch_repeats {d d' : Disk} {target : Path} {roots : List Path} {s : Segmenter}
    {sizes : WindowSizes} {seed : UInt64} {b : BatchResult} {log : List LogEntry}
    (proper : d.tree.Proper) (spelled : d.tree.Spelled)
    (kindless : FileKind.ofPath? target = none)
    (around : ∀ parent, target.around.head? = some parent → d.leadsToDirectory parent = true)
    (ran : runBatch d roots s sizes seed = .ok (.ok b, log))
    (wrote : writeRecords d target b.records = (.ok (), d')) :
    runBatch d' roots s sizes seed = .ok (.ok b, log) ∧
      writeRecords d' target b.records = (.ok (), d') ∧
      d'.read target = .ok (Utf8.encode (Json.writtenRecords b.records)) := by
  have held := read_writeRecords wrote
  refine ⟨?_, writeRecords_eq_ok.2 (Disk.writeText_of_held held), held⟩
  obtain ⟨made, hmade, g, rfl⟩ := Disk.exists_written_of_writeText (writeRecords_eq_ok.1 wrote)
  rw [Disk.makeDirectories_of_leadsToDirectory around] at hmade
  obtain rfl := (Prod.mk.inj hmade).2
  rw [(g.aside proper spelled kindless _).runBatch_eq]
  exact ran

/-- A disk with a directory that holds one file. -/
def Disk.oneInside : Disk :=
  ⟨.directory [("d", .directory [("a.txt", .file [0x78])])], []⟩

/-- The output is a new file in the root itself, by a path that goes out of it and back. -/
theorem runBatch_repeats_amongSources :
    let d := Disk.oneInside
    let sizes : WindowSizes := ⟨⟨1, 2⟩, ⟨0, 1⟩⟩
    ∃ b log d' bytes, runBatch d [⟨"d"⟩] .words sizes 7 = .ok (.ok b, log) ∧
      writeRecords d ⟨"d/../d//o.json"⟩ b.records = (.ok (), d') ∧
      d'.tree = .directory [("d", .directory [("a.txt", .file [0x78]), ("o.json", .file bytes)])] ∧
      runBatch d' [⟨"d"⟩] .words sizes 7 = .ok (.ok b, log) ∧
      writeRecords d' ⟨"d/../d//o.json"⟩ b.records = (.ok (), d') ∧
      d'.read ⟨"d/../d//o.json"⟩ = .ok bytes := by
  intro d sizes
  have proper : d.tree.Proper := by
    simp [d, Disk.oneInside, Node.Proper, Node.ProperEntries]
  have spelled : d.tree.Spelled := by
    refine ⟨?_, ⟨?_, trivial, trivial⟩, trivial⟩ <;> decide
  have kindless : FileKind.ofPath? ⟨"d/../d//o.json"⟩ = none := by rfl
  have innermost : (Path.around ⟨"d/../d//o.json"⟩).head? = some ⟨"d/../d"⟩ := by rfl
  have around : ∀ parent, (Path.around ⟨"d/../d//o.json"⟩).head? = some parent →
      d.leadsToDirectory parent = true := by
    intro parent there
    obtain rfl := Option.some.inj (innermost.symm.trans there)
    rfl
  have some_files : d.sources [⟨"d"⟩] ≠ [] := by
    have found : d.find ⟨"d"⟩ = .ok (.directory [("a.txt", .file [0x78])]) := by rfl
    have kind : SourceFile.ofPath? (Path.entry ⟨"d"⟩ "a.txt") = some ⟨⟨"d/a.txt"⟩, .text⟩ := by rfl
    have short : Disk.isTooLong ⟨"d"⟩ = false := by rfl
    simp [Disk.sources, Disk.sourcesAt, found, Node.files, Node.filesOfEntries, short, kind]
  have accepted : sizes.check = .ok () := rfl
  obtain ⟨outcomes, houtcomes, -⟩ :=
    exists_outcomesFrom (WindowSizes.check_eq_ok.1 accepted) d .words 7 0 (d.sources [⟨"d"⟩])
  have ran := runBatch_of_outcomes accepted some_files houtcomes
  have route : Disk.oneInside.route ⟨"d/../d//o.json"⟩ =
      .ok ⟨["d", "..", "d"] ++ ["o.json"], false⟩ := by rfl
  have free : ∀ below, List.lookup "o.json" [("a.txt", .file [0x78])] ≠
      some (Node.directory below) := by
    intro below there
    cases there
  let g : Disk.oneInside.Target ⟨"d/../d//o.json"⟩ :=
    ⟨_, "o.json", [("d", .directory [("a.txt", .file [0x78])])], _, route, rfl, rfl, by decide,
      by decide, free⟩
  have wrote := writeRecords_eq_ok.2 (g.writeText_eq
    (Disk.makeDirectories_of_leadsToDirectory around) (Json.writtenRecords (recordsOf outcomes)))
  obtain ⟨again, same, held⟩ := runBatch_repeats proper spelled kindless around ran wrote
  exact ⟨_, _, _, _, ran, wrote, rfl, again, same, held⟩

end Corpus
