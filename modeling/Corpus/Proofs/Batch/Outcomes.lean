import Corpus.Batch.Run
import Corpus.Proofs.Window.Records

/-!
# What comes of each file

With valid sizes a file always comes to something, records or a reason why there are none: the one
thing that could fault on the way are the draws for its windows, and they do not. So a batch is the
list of what comes of its files, each by itself (`exists_outcomesFrom`), and all that a batch gives
is read off that list (`runBatch_of_outcomes`).
-/

set_option autoImplicit false

namespace Corpus

open Corpus.Parse Corpus.Text

variable {d : Disk} {s : Segmenter} {sizes : WindowSizes} {seed : UInt64}

theorem SourceFile.exists_outcome {σ : Type} [RandomSource σ] (h : sizes.Valid)
    (file : SourceFile) (d : Disk) (s : Segmenter) (random : σ) :
    ∃ o, file.outcome d s sizes random = .ok o := by
  unfold SourceFile.outcome
  dsimp only
  cases d.readText file.path with
  | error e => exact ⟨_, rfl⟩
  | ok source =>
    dsimp only
    cases file.kind.tokens s source with
    | error e => exact ⟨_, rfl⟩
    | ok found =>
      obtain ⟨windows, hrecords, -⟩ :=
        exists_records h file.kind.rendering (file.kind.material s found.tokens) random
      simp only [hrecords]
      exact ⟨_, rfl⟩

/-- What comes of the file at a place in a list, with the random words of that place. -/
def SourceFile.outcomeAt (file : SourceFile) (d : Disk) (s : Segmenter) (sizes : WindowSizes)
    (seed : UInt64) (index : Nat) : Except Fault FileOutcome :=
  file.outcome d s sizes (Random.ChaCha.ofSeed (seedAt seed index))

theorem outcomesFrom_cons {index : Nat} {file : SourceFile} {files : List SourceFile}
    {o : FileOutcome} {outcomes : List (SourceFile × FileOutcome)}
    (ho : file.outcomeAt d s sizes seed index = .ok o)
    (houtcomes : outcomesFrom d s sizes seed (index + 1) files = .ok outcomes) :
    outcomesFrom d s sizes seed index (file :: files) = .ok ((file, o) :: outcomes) := by
  unfold SourceFile.outcomeAt at ho
  simp only [outcomesFrom, ho, houtcomes]
  rfl

/-- The outcomes of a list of files are those of its files, each at its place. -/
theorem exists_outcomesFrom (h : sizes.Valid) (d : Disk) (s : Segmenter) (seed : UInt64)
    (index : Nat) (files : List SourceFile) :
    ∃ outcomes, outcomesFrom d s sizes seed index files = .ok outcomes ∧
      outcomes.map Prod.fst = files ∧
      files.mapIdx (fun i file => file.outcomeAt d s sizes seed (index + i)) =
        outcomes.map fun x => .ok x.2 := by
  induction files generalizing index with
  | nil => exact ⟨[], rfl, rfl, rfl⟩
  | cons file files ih =>
    obtain ⟨o, ho⟩ := file.exists_outcome h d s (Random.ChaCha.ofSeed (seedAt seed index))
    obtain ⟨outcomes, houtcomes, hfiles, hat⟩ := ih (index + 1)
    refine ⟨(file, o) :: outcomes, outcomesFrom_cons ho houtcomes, ?_, ?_⟩
    · rw [List.map_cons, hfiles]
    · -- The places of the rest count from the one behind the first file.
      have places : (fun i (f : SourceFile) => f.outcomeAt d s sizes seed (index + (i + 1))) =
          fun i f => f.outcomeAt d s sizes seed (index + 1 + i) := by
        funext i f
        rw [Nat.add_comm i 1, Nat.add_assoc]
      rw [List.mapIdx_cons, List.map_cons, places, hat]
      exact congrArg (· :: _) ho

/-- The outcome of a list that stands where a file stands is the outcome of that file. -/
theorem getElem?_outcomes {index i : Nat} {files : List SourceFile}
    {outcomes : List (SourceFile × FileOutcome)}
    (hat : files.mapIdx (fun i file => file.outcomeAt d s sizes seed (index + i)) =
      outcomes.map fun x => .ok x.2)
    {file : SourceFile} {o : FileOutcome} (hfile : files[i]? = some file)
    (ho : file.outcomeAt d s sizes seed (index + i) = .ok o) :
    outcomes[i]?.map Prod.snd = some o := by
  have here := congrArg (·[i]?) hat
  simp only [List.getElem?_mapIdx, List.getElem?_map, hfile, Option.map_some, ho] at here
  cases houtcome : outcomes[i]? with
  | none =>
    rw [houtcome] at here
    cases here
  | some x =>
    rw [houtcome] at here
    cases here
    rfl

/-- What comes of a file hangs on the disk only by what is read at its path. -/
theorem SourceFile.outcome_of_readText {σ : Type} [RandomSource σ] {d' : Disk} {file : SourceFile}
    (h : d'.readText file.path = d.readText file.path) (s : Segmenter) (sizes : WindowSizes)
    (random : σ) : file.outcome d' s sizes random = file.outcome d s sizes random := by
  unfold SourceFile.outcome
  rw [h]

/-- Files that all read the same on two disks come to the same. -/
theorem outcomesFrom_congr {d' : Disk} {files : List SourceFile}
    (h : ∀ file ∈ files, d'.readText file.path = d.readText file.path) (s : Segmenter)
    (sizes : WindowSizes) (seed : UInt64) (index : Nat) :
    outcomesFrom d' s sizes seed index files = outcomesFrom d s sizes seed index files := by
  induction files generalizing index with
  | nil => rfl
  | cons file files ih =>
    obtain ⟨first, rest⟩ := List.forall_mem_cons.1 h
    unfold outcomesFrom
    rw [SourceFile.outcome_of_readText first, ih rest]

theorem length_outcomes {files : List SourceFile} {outcomes : List (SourceFile × FileOutcome)}
    (h : outcomes.map Prod.fst = files) : outcomes.length = files.length := by
  rw [← h, List.length_map]

theorem runBatch_of_check {e : SizeError} (h : sizes.check = .error e) (d : Disk)
    (roots : List Path) (s : Segmenter) (seed : UInt64) :
    runBatch d roots s sizes seed = .ok (.error (.sizes e), []) := by
  unfold runBatch
  rw [h]

theorem runBatch_of_nil (h : sizes.check = .ok ()) {roots : List Path}
    (hnil : d.sources roots = []) (s : Segmenter) (seed : UInt64) :
    runBatch d roots s sizes seed = .ok (.error (.noSources roots), []) := by
  unfold runBatch
  rw [h, hnil]
  rfl

/-- A batch that has files gives what came of them. -/
theorem runBatch_of_outcomes (h : sizes.check = .ok ()) {roots : List Path}
    (hne : d.sources roots ≠ []) {outcomes : List (SourceFile × FileOutcome)}
    (houtcomes : outcomesFrom d s sizes seed 0 (d.sources roots) = .ok outcomes) :
    runBatch d roots s sizes seed =
      .ok (.ok ⟨recordsOf outcomes, failuresOf outcomes, outcomes.length, seed⟩,
        .batch (d.sources roots).length seed ::
          logOfFiles (d.sources roots).length 0 outcomes ++
            logOfFailures (failuresOf outcomes)) := by
  have some_files : (d.sources roots).isEmpty = false := List.isEmpty_eq_false_iff.2 hne
  unfold runBatch
  simp only [h, some_files, if_false, Bool.false_eq_true, houtcomes]
  rfl

/-- A batch that succeeds has files and accepted sizes, and gives what came of the files. -/
theorem exists_outcomes_of_runBatch {roots : List Path} {b : BatchResult} {log : List LogEntry}
    (h : runBatch d roots s sizes seed = .ok (.ok b, log)) :
    ∃ outcomes, outcomesFrom d s sizes seed 0 (d.sources roots) = .ok outcomes ∧
      b = ⟨recordsOf outcomes, failuresOf outcomes, outcomes.length, seed⟩ := by
  cases hcheck : sizes.check with
  | error e =>
    rw [runBatch_of_check hcheck] at h
    cases h
  | ok accepted =>
    by_cases hnil : d.sources roots = []
    · rw [runBatch_of_nil hcheck hnil] at h
      cases h
    · obtain ⟨outcomes, houtcomes, -⟩ :=
        exists_outcomesFrom (WindowSizes.check_eq_ok.1 hcheck) d s seed 0 (d.sources roots)
      rw [runBatch_of_outcomes hcheck hnil houtcomes] at h
      cases h
      exact ⟨outcomes, houtcomes, rfl⟩

end Corpus
