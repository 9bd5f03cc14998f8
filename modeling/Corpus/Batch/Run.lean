import Corpus.Batch.Log
import Corpus.Random.ChaCha
import Corpus.Record
import Corpus.Source.Material

/-!
# Running a batch

`SourceFile.outcome` is what comes of one file, and `runBatch` what comes of every source file
below some roots. **The files of a batch have nothing to do with each other.** Each has its own
random source, whose seed follows from the seed of the batch and the place of the file in the list
(`seedAt`), and a file that cannot be read or lexed is noted and costs nothing but its own
records.
-/

set_option autoImplicit false

namespace Corpus

open Corpus.Parse Corpus.Text

/-- How the texts of a source of the given kind are put together again. -/
def FileKind.rendering (kind : FileKind) : Rendering :=
  ⟨kind.label, kind.joiner⟩

/-! ## One file -/

/-- What comes of one file: its records or the reason why there are none, and what is told on the
way. -/
structure FileOutcome where
  result : Except CorpusError (List Record)
  log : List LogEntry

/-- Reads, lexes and windows one file. -/
def SourceFile.outcome {σ : Type} [RandomSource σ] (file : SourceFile) (d : Disk) (s : Segmenter)
    (sizes : WindowSizes) (random : σ) : Except Fault FileOutcome :=
  let begun := [LogEntry.file file]
  match d.readText file.path with
  | .error e => .ok ⟨.error (.read file.path e), begun⟩
  | .ok source =>
    match file.kind.tokens s source with
    | .error e => .ok ⟨.error (.lex file.path e), begun⟩
    | .ok found => do
      let stopped := found.unmatched?.toList.map fun (offset, left) => .stopped offset left
      let records ←
        file.kind.rendering.records sizes (file.kind.material s found.tokens) random
      pure ⟨.ok records, begun ++ stopped⟩

/-! ## All files -/

/-- The seed of the file at a place in the list. Neighbours are far apart: the step is odd, and
near the golden ratio of all 64-bit words. -/
def seedAt (base : UInt64) (index : Nat) : UInt64 :=
  base ^^^ (UInt64.ofNat (index + 1) * 0x9E3779B97F4A7C15)

structure BatchResult where
  records : List Record
  failures : List (Path × CorpusError)
  files : Nat
  seed : UInt64

/-- The outcome of every file of a list, in order. The first has the given place. -/
def outcomesFrom (d : Disk) (s : Segmenter) (sizes : WindowSizes) (seed : UInt64) :
    Nat → List SourceFile → Except Fault (List (SourceFile × FileOutcome))
  | _, [] => .ok []
  | index, file :: files => do
    let outcome ← file.outcome d s sizes (Random.ChaCha.ofSeed (seedAt seed index))
    let outcomes ← outcomesFrom d s sizes seed (index + 1) files
    pure ((file, outcome) :: outcomes)

/-- What is told of progress when so many of the files are done: every hundred files, and at the
end. -/
def progress (done files : Nat) : List LogEntry :=
  if done % 100 = 0 || done = files then [.progress done files] else []

/-- What the files of a batch tell, one after the other. `done` of them came before. -/
def logOfFiles (files : Nat) : Nat → List (SourceFile × FileOutcome) → List LogEntry
  | _, [] => []
  | done, (_, outcome) :: outcomes =>
    outcome.log ++ progress (done + 1) files ++ logOfFiles files (done + 1) outcomes

def failuresOf (outcomes : List (SourceFile × FileOutcome)) : List (Path × CorpusError) :=
  outcomes.filterMap fun (file, outcome) =>
    match outcome.result with
    | .ok _ => none
    | .error e => some (file.path, e)

def recordsOf (outcomes : List (SourceFile × FileOutcome)) : List Record :=
  outcomes.flatMap fun (_, outcome) =>
    match outcome.result with
    | .ok records => records
    | .error _ => []

/-- What is told of failures at the end: their number, if there are any, then each. -/
def logOfFailures (failures : List (Path × CorpusError)) : List LogEntry :=
  if failures.isEmpty then []
  else .failed failures.length :: failures.map fun (_, e) => .failure e

/-- Makes the records of every source file below the roots, and tells on the way. -/
def runBatch (d : Disk) (roots : List Path) (s : Segmenter) (sizes : WindowSizes)
    (seed : UInt64) : Except Fault (Except CorpusError BatchResult × List LogEntry) :=
  match sizes.check with
  | .error e => .ok (.error (.sizes e), [])
  | .ok () =>
    let files := d.sources roots
    if files.isEmpty then .ok (.error (.noSources roots), [])
    else do
      let outcomes ← outcomesFrom d s sizes seed 0 files
      let failures := failuresOf outcomes
      pure
        (.ok ⟨recordsOf outcomes, failures, outcomes.length, seed⟩,
         .batch files.length seed :: logOfFiles files.length 0 outcomes
           ++ logOfFailures failures)

end Corpus
