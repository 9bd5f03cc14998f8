import Corpus.Proofs.Batch.Outcomes
import Corpus.Proofs.Disk.Alike

/-!
# Files of a batch by themselves

A batch maps its files to results and puts those together (`BatchResult.GatheredFrom`): the records
of the files that gave some, one file after the other, and the reasons of the others, with their
paths. The result of a file hangs on the seed of the batch, on the place of the file in the list
and on what the file holds (`SourceFile.resultAt`), and on nothing that the other files hold or come
to. So with other bytes in one file, **every other job of the batch gives the same as before**
(`runBatch_isolates`).
-/

set_option autoImplicit false

namespace Corpus

open Corpus.Text

/-- What the file at a place in a list of files gives: its records, or why there are none. -/
def SourceFile.resultAt (file : SourceFile) (d : Disk) (s : Segmenter) (sizes : WindowSizes)
    (seed : UInt64) (index : Nat) : Except Fault (Except CorpusError (List Record)) :=
  (file.outcomeAt d s sizes seed index).map FileOutcome.result

/-- The failure that is noted for a file with such a result, if any is. -/
def SourceFile.failure? (file : SourceFile) :
    Except CorpusError (List Record) → Option (Path × CorpusError)
  | .ok _ => none
  | .error e => some (file.path, e)

/-- A batch put together from what its files give, each at its place. -/
structure BatchResult.GatheredFrom (b : BatchResult) (d : Disk) (s : Segmenter)
    (sizes : WindowSizes) (seed : UInt64) (files : List SourceFile)
    (results : List (Except CorpusError (List Record))) : Prop where
  results_eq :
    files.mapIdx (fun i file => file.resultAt d s sizes seed i) = results.map .ok
  files_eq : b.files = files.length
  records_eq : b.records = (results.filterMap Except.toOption).flatten
  failures_eq : b.failures = (files.zip results).filterMap fun (file, result) =>
    file.failure? result
  count_eq : results.countP Except.isOk + b.failures.length = b.files
  seed_eq : b.seed = seed

variable {d : Disk} {s : Segmenter} {sizes : WindowSizes} {seed : UInt64}

/-! ## Putting results together -/

/-- The results of the files, in order. -/
def resultsOf (outcomes : List (SourceFile × FileOutcome)) :
    List (Except CorpusError (List Record)) :=
  outcomes.map fun x => x.2.result

theorem recordsOf_eq (outcomes : List (SourceFile × FileOutcome)) :
    recordsOf outcomes = ((resultsOf outcomes).filterMap Except.toOption).flatten := by
  induction outcomes with
  | nil => rfl
  | cons x outcomes ih =>
    obtain ⟨file, ⟨result, log⟩⟩ := x
    unfold recordsOf at ih ⊢
    rw [List.flatMap_cons, ih]
    cases result <;> rfl

theorem failuresOf_eq (outcomes : List (SourceFile × FileOutcome)) :
    failuresOf outcomes =
      ((outcomes.map Prod.fst).zip (resultsOf outcomes)).filterMap fun (file, result) =>
        file.failure? result := by
  induction outcomes with
  | nil => rfl
  | cons x outcomes ih =>
    obtain ⟨file, ⟨result, log⟩⟩ := x
    cases result with
    | ok records => exact ih
    | error e => exact congrArg ((file.path, e) :: ·) ih

/-- Every file has either records or a failure. -/
theorem countP_add_length_failuresOf (outcomes : List (SourceFile × FileOutcome)) :
    (resultsOf outcomes).countP Except.isOk + (failuresOf outcomes).length = outcomes.length := by
  induction outcomes with
  | nil => rfl
  | cons x outcomes ih =>
    obtain ⟨file, ⟨result, log⟩⟩ := x
    rw [List.length_cons, ← ih]
    cases result with
    | ok records =>
      have counted : (resultsOf ((file, ⟨.ok records, log⟩) :: outcomes)).countP Except.isOk =
          (resultsOf outcomes).countP Except.isOk + 1 := List.countP_cons_of_pos rfl
      rw [counted, Nat.add_right_comm]
      rfl
    | error e =>
      have passed : (resultsOf ((file, ⟨.error e, log⟩) :: outcomes)).countP Except.isOk =
          (resultsOf outcomes).countP Except.isOk := List.countP_cons_of_neg Bool.false_ne_true
      rw [passed]
      rfl

theorem mapIdx_resultAt {files : List SourceFile} {outcomes : List (SourceFile × FileOutcome)}
    (hat : files.mapIdx (fun i file => file.outcomeAt d s sizes seed (0 + i)) =
      outcomes.map fun x => .ok x.2) :
    files.mapIdx (fun i file => file.resultAt d s sizes seed i) =
      (resultsOf outcomes).map .ok := by
  rw [List.mapIdx_eq_iff] at hat ⊢
  intro i
  have result := congrArg (Option.map (Except.map FileOutcome.result)) (hat i)
  rw [List.getElem?_map, Option.map_map, Option.map_map, Nat.zero_add] at result
  rw [resultsOf, List.map_map, List.getElem?_map]
  exact result

/-- With valid sizes and something to work on, a batch is put together from its files. -/
theorem exists_gatheredFrom (h : sizes.check = .ok ()) {roots : List Path}
    (some_files : d.sources roots ≠ []) (s : Segmenter) (seed : UInt64) :
    ∃ b log results, runBatch d roots s sizes seed = .ok (.ok b, log) ∧
      b.GatheredFrom d s sizes seed (d.sources roots) results := by
  obtain ⟨outcomes, houtcomes, hfiles, hat⟩ :=
    exists_outcomesFrom (WindowSizes.check_eq_ok.1 h) d s seed 0 (d.sources roots)
  refine ⟨_, _, resultsOf outcomes, runBatch_of_outcomes h some_files houtcomes, ?_⟩
  exact {
    results_eq := mapIdx_resultAt hat
    files_eq := length_outcomes hfiles
    records_eq := recordsOf_eq outcomes
    failures_eq := by rw [← hfiles]; exact failuresOf_eq outcomes
    count_eq := countP_add_length_failuresOf outcomes
    seed_eq := rfl }

/-! ## Isolation -/

/-- What a file gives hangs on the disk only by what is read at its path. -/
theorem SourceFile.resultAt_of_readText {d' : Disk} {file : SourceFile}
    (h : d'.readText file.path = d.readText file.path) (s : Segmenter) (sizes : WindowSizes)
    (seed : UInt64) (index : Nat) :
    file.resultAt d' s sizes seed index = file.resultAt d s sizes seed index := by
  unfold SourceFile.resultAt SourceFile.outcomeAt
  rw [SourceFile.outcome_of_readText h]

/-- The results of two batches at a file that reads the same in both. -/
theorem BatchResult.GatheredFrom.getElem?_eq {b b' : BatchResult} {d' : Disk}
    {files : List SourceFile} {results results' : List (Except CorpusError (List Record))}
    (h : b.GatheredFrom d s sizes seed files results)
    (h' : b'.GatheredFrom d' s sizes seed files results') {i : Nat} {file : SourceFile}
    (hfile : files[i]? = some file) (same : d'.readText file.path = d.readText file.path) :
    results'[i]? = results[i]? := by
  have here := List.mapIdx_eq_iff.1 h.results_eq i
  have here' := List.mapIdx_eq_iff.1 h'.results_eq i
  rw [hfile, List.getElem?_map, Option.map_some] at here here'
  rw [SourceFile.resultAt_of_readText same, ← here] at here'
  exact Option.map_injective (fun _ _ => Except.ok.inj) here'

/-- **A batch maps its files to results and puts them together, each file by itself.** There is an
error exactly if the sizes are turned away or there is nothing to work on. Otherwise the batch is
gathered from its files; and with other bytes in one file, wherever the jobs are still the same,
each job whose path does not lead to that file has the result that it had. -/
theorem runBatch_isolates (d : Disk) (roots : List Path) (s : Segmenter) (sizes : WindowSizes)
    (seed : UInt64) :
    (∀ e, (∃ log, runBatch d roots s sizes seed = .ok (.error e, log)) ↔
      (∃ cause, sizes.check = .error cause ∧ e = .sizes cause) ∨
      (sizes.check = .ok () ∧ d.sources roots = [] ∧ e = .noSources roots)) ∧
    (sizes.check = .ok () → d.sources roots ≠ [] →
      ∃ b log results, runBatch d roots s sizes seed = .ok (.ok b, log) ∧
        b.GatheredFrom d s sizes seed (d.sources roots) results ∧
        ∀ d' place, d.AlikeBut place d' → d'.sources roots = d.sources roots →
          ∃ b' log' results', runBatch d' roots s sizes seed = .ok (.ok b', log') ∧
            b'.GatheredFrom d' s sizes seed (d.sources roots) results' ∧
            ∀ (i : Nat) (file : SourceFile), (d.sources roots)[i]? = some file →
                ¬ d.LeadsTo file.path place → results'[i]? = results[i]?) := by
  refine ⟨?errors, ?gathered⟩
  case errors =>
    intro e
    cases hcheck : sizes.check with
    | error cause =>
      rw [runBatch_of_check hcheck]
      constructor
      · rintro ⟨log, ⟨⟩⟩
        exact .inl ⟨cause, rfl, rfl⟩
      · rintro (⟨_, ⟨⟩, rfl⟩ | ⟨⟨⟩, -⟩)
        exact ⟨[], rfl⟩
    | ok accepted =>
      by_cases nothing : d.sources roots = []
      · rw [runBatch_of_nil hcheck nothing]
        constructor
        · rintro ⟨log, ⟨⟩⟩
          exact .inr ⟨rfl, nothing, rfl⟩
        · rintro (⟨_, ⟨⟩, -⟩ | ⟨-, -, rfl⟩)
          exact ⟨[], rfl⟩
      · obtain ⟨b, log, results, ran, -⟩ := exists_gatheredFrom hcheck nothing s seed
        rw [ran]
        constructor
        · rintro ⟨log', ⟨⟩⟩
        · rintro (⟨_, ⟨⟩, -⟩ | ⟨-, empty, -⟩)
          exact absurd empty nothing
  case gathered =>
    intro hcheck some_files
    obtain ⟨b, log, results, ran, gathered⟩ := exists_gatheredFrom hcheck some_files s seed
    refine ⟨b, log, results, ran, gathered, fun d' place alike hsources => ?_⟩
    obtain ⟨b', log', results', ran', gathered'⟩ :=
      exists_gatheredFrom (d := d') hcheck (hsources ▸ some_files) s seed
    rw [hsources] at gathered'
    refine ⟨b', log', results', ran', gathered', fun i file hfile elsewhere => ?_⟩
    exact gathered.getElem?_eq gathered' hfile (alike.readText_eq elsewhere)

/-- A disk with a string that is not closed, and a file that is empty. -/
def Disk.unclosedAndEmpty : Disk :=
  ⟨.directory [("a.c", .file [0x22]), ("b.txt", .file [])], []⟩

/-- The string becomes a name, and the other file gives what it gave. -/
theorem runBatch_isolates_unclosedAndEmpty :
    let d := Disk.unclosedAndEmpty
    let d' : Disk := ⟨.directory [("a.c", .file [0x78]), ("b.txt", .file [])], []⟩
    let sizes : WindowSizes := ⟨⟨1, 2⟩, ⟨0, 1⟩⟩
    let files : List SourceFile := [⟨⟨"/a.c"⟩, .c⟩, ⟨⟨"/b.txt"⟩, .text⟩]
    d.AlikeBut ["a.c"] d' ∧ d.sources [⟨"/"⟩] = files ∧ d'.sources [⟨"/"⟩] = files ∧
      ¬ d.LeadsTo ⟨"/b.txt"⟩ ["a.c"] ∧
      ∃ b log results b' log' results',
        runBatch d [⟨"/"⟩] .words sizes 7 = .ok (.ok b, log) ∧
        runBatch d' [⟨"/"⟩] .words sizes 7 = .ok (.ok b', log') ∧
        b.GatheredFrom d .words sizes 7 files results ∧
        b'.GatheredFrom d' .words sizes 7 files results' ∧
        results'[1]? = results[1]? := by
  intro d d' sizes files
  have old : d.tree.at? ["a.c"] = some (.file [0x22]) := rfl
  have alike : d.AlikeBut ["a.c"] d' := Disk.alikeBut_put old [0x78]
  -- What the first file holds has no say in what is found.
  have listed : ∀ bytes, (⟨.directory [("a.c", .file bytes), ("b.txt", .file [])], []⟩ :
      Disk).sources [⟨"/"⟩] = files := by
    intro bytes
    have found : Disk.find ⟨.directory [("a.c", .file bytes), ("b.txt", .file [])], []⟩ ⟨"/"⟩ =
        .ok (.directory [("a.c", .file bytes), ("b.txt", .file [])]) := by rfl
    have short : Disk.isTooLong ⟨"/"⟩ = false := by rfl
    have code : SourceFile.ofPath? (Path.entry ⟨"/"⟩ "a.c") = some ⟨⟨"/a.c"⟩, .c⟩ := by rfl
    have text : SourceFile.ofPath? (Path.entry ⟨"/"⟩ "b.txt") = some ⟨⟨"/b.txt"⟩, .text⟩ := by rfl
    have sorted : files.Pairwise fun a b => a.path.comesBefore b.path = true := by decide
    simpa [Disk.sources, Disk.sourcesAt, found, Node.files, Node.filesOfEntries, short, code, text]
      using List.mergeSort_of_pairwise sorted
  have hfiles : d.sources [⟨"/"⟩] = files := listed [0x22]
  have hfiles' : d'.sources [⟨"/"⟩] = files := listed [0x78]
  have elsewhere : ¬ d.LeadsTo ⟨"/b.txt"⟩ ["a.c"] := by
    have there : d.placeOf ⟨"/b.txt"⟩ = .ok ["b.txt"] := rfl
    rw [Disk.LeadsTo, there]
    decide
  have some_files : d.sources [⟨"/"⟩] ≠ [] := by
    rw [hfiles]
    exact List.cons_ne_nil _ _
  obtain ⟨b, log, results, ran, gathered, isolated⟩ :=
    (runBatch_isolates d [⟨"/"⟩] .words sizes 7).2 rfl some_files
  obtain ⟨b', log', results', ran', gathered', same⟩ :=
    isolated d' ["a.c"] alike (hfiles'.trans hfiles.symm)
  rw [hfiles] at gathered gathered' same
  exact ⟨alike, hfiles, hfiles', elsewhere, b, log, results, b', log', results', ran, ran',
    gathered, gathered', same 1 ⟨⟨"/b.txt"⟩, .text⟩ rfl elsewhere⟩

end Corpus
