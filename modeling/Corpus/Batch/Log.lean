import Corpus.Batch.Discovery
import Corpus.Batch.Error

/-!
# What a run tells about itself

A run leaves a trail of entries, each with a level. They are values, not text: which of them are
shown, and how, is decided by whoever shows them.
-/

set_option autoImplicit false

namespace Corpus

/-- How important an entry is. -/
inductive LogLevel where
  | error
  | warn
  | info
  | debug
  | trace
  deriving DecidableEq, Repr

namespace LogLevel

/-- The number of a level: the less important, the higher. -/
def verbosity : LogLevel → Nat
  | .error => 1
  | .warn => 2
  | .info => 3
  | .debug => 4
  | .trace => 5

def name : LogLevel → String
  | .error => "ERROR"
  | .warn => "WARN"
  | .info => "INFO"
  | .debug => "DEBUG"
  | .trace => "TRACE"

end LogLevel

/-- One thing told. -/
inductive LogEntry where
  | batch (files : Nat) (seed : UInt64)
  | file (source : SourceFile)
  /-- The lexing of a file stopped at an offset with some bytes left. -/
  | stopped (offset left : Nat)
  /-- So many files are done. -/
  | progress (done files : Nat)
  | failed (files : Nat)
  | failure (error : CorpusError)
  deriving DecidableEq, Repr

namespace LogEntry

def level : LogEntry → LogLevel
  | .batch .. | .progress .. => .info
  | .file _ => .debug
  | .stopped .. | .failed _ | .failure _ => .warn

def message : LogEntry → String
  | .batch files seed => s!"Processing {files} files with seed {seed.toNat}"
  | .file source => s!"{source.kind.name} processing: {source.path.spelling}"
  | .stopped offset left =>
    s!"tokenizer stopped at offset {offset}, {left} bytes left unmatched"
  | .progress done files => s!"Processed {done}/{files} files..."
  | .failed files => s!"{files} files failed to process"
  | .failure error => error.message

/-- An entry as a line: its level and its wording. -/
def line (e : LogEntry) : String :=
  e.level.name ++ " " ++ e.message

end LogEntry

end Corpus
