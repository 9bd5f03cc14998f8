import Corpus.Batch.Output
import Corpus.Batch.Run
import Corpus.CommandLine.Options

/-!
# A run of the program

From a disk and a command line to what the program prints, its exit code, and the disk afterwards.
Log entries are shown down to a level of importance; the result does not depend on which are.

The exit code is 0 after success, 1 where the run failed, and 2 where the command line was refused;
then nothing has been done. The records are written last, so that a run that fails before has not
touched any file.
-/

set_option autoImplicit false

namespace Corpus.CommandLine

open Corpus.Text

/-- What a run leaves behind. -/
structure Exit where
  code : Nat
  stdout : String
  stderr : String
  disk : Disk

/-- The name and version of the program. -/
def versionText : String :=
  "lora-dataset 0.1.0\n"

def helpText : String :=
  "CLI tool for turning source trees into instruction/input/output training records\n\n" ++
  "Usage: lora-dataset [OPTIONS] --source <SOURCE> --target <TARGET>\n\n" ++
  "Options:\n" ++
  "      --source <SOURCE>          Source project directory (repeatable)\n" ++
  "      --target <TARGET>          Where to save the training dataset\n" ++
  "      --seed <SEED>              Base seed for window sizing; random when omitted\n" ++
  "      --min-window <MIN_WINDOW>  Minimum tokens per window [default: 32]\n" ++
  "      --max-window <MAX_WINDOW>  Window length upper bound (exclusive) [default: 128]\n" ++
  "      --min-header <MIN_HEADER>  Minimum tokens in a record input [default: 4]\n" ++
  "      --max-header <MAX_HEADER>  Record input length upper bound (exclusive) [default: 16]\n" ++
  "  -q, --quiet                    Silence log messages\n" ++
  "  -v, --verbose...               Increase log verbosity (-v, -vv, -vvv)\n" ++
  "      --ts                       Enable timestamped logging\n" ++
  "  -h, --help                     Print help\n" ++
  "  -V, --version                  Print version\n"

/-- What is printed where the command line was refused. -/
def refusalText : String :=
  "error: invalid arguments\n\nFor more information, try '--help'.\n"

/-- Lines, each with its line feed. -/
def lines (ls : List String) : String :=
  String.join (ls.map (· ++ "\n"))

/-- The least important level that is shown: informational entries unless asked otherwise. -/
def Options.verbosity (o : Options) : Nat :=
  if o.verbose = 0 then 3 else o.verbose

def Options.shows (o : Options) (e : LogEntry) : Bool :=
  !o.quiet && e.level.verbosity ≤ o.verbosity

def Options.shownLog (o : Options) (log : List LogEntry) : List String :=
  (log.filter o.shows).map LogEntry.line

def errorLine (e : CorpusError) : String :=
  "Error: " ++ e.detail

/-- The first line of every run. -/
def beginning (o : Options) : String :=
  s!"Processing source files from {CorpusError.quotedPaths o.sources}..."

/-- The line before the records are written. -/
def writing (o : Options) : String :=
  s!"Writing output to {quoted o.target.spelling}..."

def summary (o : Options) (outcome : BatchResult) : List String :=
  ["",
   "[summary]",
   s!"  Files processed: {outcome.files}",
   s!"  Files failed: {outcome.failures.length}",
   s!"  Records: {outcome.records.length}",
   s!"  Seed: {outcome.seed.toNat}",
   s!"  Output: {quoted o.target.spelling}"]

/-- Runs with the given options. `entropy` is the seed if none was asked for. -/
def runOptions (d : Disk) (o : Options) (entropy : UInt64) : Exit :=
  match runBatch d o.sources .words o.sizes (o.seed?.getD entropy) with
  | .error fault =>
    ⟨101, lines [beginning o], lines [fault.message], d⟩
  | .ok (.error e, log) =>
    ⟨1, lines [beginning o], lines (o.shownLog log ++ [errorLine e]), d⟩
  | .ok (.ok outcome, log) =>
    match writeRecords d o.target outcome.records with
    | (.error e, made) =>
      ⟨1, lines [beginning o, writing o], lines (o.shownLog log ++ [errorLine e]), made⟩
    | (.ok (), written) =>
      ⟨0, lines ([beginning o, writing o] ++ summary o outcome), lines (o.shownLog log), written⟩

def run (d : Disk) (arguments : List String) (entropy : UInt64) : Exit :=
  match request arguments with
  | .run o => runOptions d o entropy
  | .help => ⟨0, helpText, "", d⟩
  | .version => ⟨0, versionText, "", d⟩
  | .refused => ⟨2, "", refusalText, d⟩

end Corpus.CommandLine
