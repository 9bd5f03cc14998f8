import Corpus.Path
import Corpus.Window.Sizes

/-!
# The command line

Arguments are read from the left, one after the other, and what is read is collected in `Given`.
A *setting* takes a value, in the same argument behind an equals sign or in the next one; a *flag*
takes none. Flags of one letter may stand together behind one dash. What would be an argument of
its own is never a value, so an option cannot be mistaken for one.

**The first thing wrong ends the reading**, and so does a question (`--help`, `--version`): what
comes later is not looked at. Whether everything needed is there is asked at the end.
-/

set_option autoImplicit false

namespace Corpus.CommandLine

/-- What has been asked for. -/
structure Options where
  sources : List Path
  target : Path
  seed? : Option UInt64
  sizes : WindowSizes
  quiet : Bool
  /-- How often more detail was asked for. -/
  verbose : Nat
  timestamps : Bool
  deriving DecidableEq, Repr

/-- What a command line comes to. -/
inductive Request where
  | run (options : Options)
  | help
  | version
  | refused
  deriving DecidableEq, Repr

/-- An option without a value. -/
inductive Flag where
  | quiet
  | verbose
  | timestamps
  | help
  | version
  deriving DecidableEq, Repr

/-- An option with a value. -/
inductive Setting where
  | source
  | target
  | seed
  | minWindow
  | maxWindow
  | minHeader
  | maxHeader
  deriving DecidableEq, Repr

def Flag.ofLetter? : Char → Option Flag
  | 'q' => some .quiet
  | 'v' => some .verbose
  | 'h' => some .help
  | 'V' => some .version
  | _ => none

def Flag.ofName? : String → Option Flag
  | "quiet" => some .quiet
  | "verbose" => some .verbose
  | "ts" => some .timestamps
  | "help" => some .help
  | "version" => some .version
  | _ => none

def Setting.ofName? : String → Option Setting
  | "source" => some .source
  | "target" => some .target
  | "seed" => some .seed
  | "min-window" => some .minWindow
  | "max-window" => some .maxWindow
  | "min-header" => some .minHeader
  | "max-header" => some .maxHeader
  | _ => none

/-- What has been read so far. -/
structure Given where
  sources : List Path
  target? : Option Path
  seed? : Option Nat
  minWindow? : Option Nat
  maxWindow? : Option Nat
  minHeader? : Option Nat
  maxHeader? : Option Nat
  quiet : Bool
  verbose : Nat
  timestamps : Bool
  deriving DecidableEq, Repr

def Given.nothing : Given :=
  ⟨[], none, none, none, none, none, none, false, 0, false⟩

/-! ## Values -/

/-- Reads decimal digits, if there are any and nothing else. -/
def digitsValue? (digits : List Char) : Option Nat :=
  if digits.isEmpty then none
  else digits.foldlM (fun n c => if c.isDigit then some (n * 10 + (c.toNat - '0'.toNat)) else none) 0

/-- Reads a number of at most 64 bits: decimal digits, with or without a plus sign. -/
def number? (value : String) : Option Nat :=
  let digits := match value.toList with
    | '+' :: digits => digits
    | digits => digits
  (digitsValue? digits).filter (· < UInt64.size)

/-- Reads a path. The empty text is none. -/
def path? (value : String) : Option Path :=
  if value.isEmpty then none else some ⟨value⟩

/-- Fills a place that may be filled once. -/
def once {α : Type} (place : Option α) (value : Option α) : Option (Option α) :=
  match place, value with
  | none, some v => some (some v)
  | _, _ => none

/-- Takes in the value of a setting, unless there is something wrong with it. Only sources may be
given more than once. -/
def Given.set (g : Given) (setting : Setting) (value : String) : Option Given :=
  match setting with
  | .source => (path? value).map fun p => { g with sources := g.sources ++ [p] }
  | .target => (once g.target? (path? value)).map fun v => { g with target? := v }
  | .seed => (once g.seed? (number? value)).map fun v => { g with seed? := v }
  | .minWindow => (once g.minWindow? (number? value)).map fun v => { g with minWindow? := v }
  | .maxWindow => (once g.maxWindow? (number? value)).map fun v => { g with maxWindow? := v }
  | .minHeader => (once g.minHeader? (number? value)).map fun v => { g with minHeader? := v }
  | .maxHeader => (once g.maxHeader? (number? value)).map fun v => { g with maxHeader? := v }

/-! ## Arguments -/

/-- Takes in a flag. A question or something wrong is an answer at once. Only `verbose` may be
given more than once; it is counted up to 255. -/
def Given.raise (g : Given) : Flag → Except Request Given
  | .quiet => if g.quiet then .error .refused else .ok { g with quiet := true }
  | .verbose => .ok { g with verbose := min (g.verbose + 1) 255 }
  | .timestamps => if g.timestamps then .error .refused else .ok { g with timestamps := true }
  | .help => .error .help
  | .version => .error .version

/-- Takes in flags by their letters. -/
def Given.raiseLetters (g : Given) : List Char → Except Request Given
  | [] => .ok g
  | c :: letters =>
    match Flag.ofLetter? c with
    | none => .error .refused
    | some flag => (g.raise flag).bind (·.raiseLetters letters)

/-- The request once all has been read: sources and target must be there, and sizes that were not
given are the usual ones. -/
def Given.request (g : Given) : Request :=
  match g.sources, g.target? with
  | [], _ => .refused
  | _, none => .refused
  | sources, some target =>
    let usual := WindowSizes.usual
    .run {
      sources
      target
      seed? := g.seed?.map UInt64.ofNat
      sizes := {
        window :=
          ⟨g.minWindow?.getD usual.window.least, g.maxWindow?.getD usual.window.bound⟩
        header :=
          ⟨g.minHeader?.getD usual.header.least, g.maxHeader?.getD usual.header.bound⟩ }
      quiet := g.quiet
      verbose := g.verbose
      timestamps := g.timestamps }

inductive Argument where
  /-- Two dashes alone: no options come after this. -/
  | endOfOptions
  /-- An option by its name, with the value behind the equals sign. -/
  | long (name : String) (value? : Option String)
  /-- Flags by their letters. -/
  | letters (cs : List Char)
  | plain (value : String)
  deriving DecidableEq, Repr

/-- Sorts an argument. One dash alone is no option. -/
def Argument.ofString (argument : String) : Argument :=
  match argument.toList with
  | ['-', '-'] => .endOfOptions
  | '-' :: '-' :: cs =>
    let name := String.ofList (cs.takeWhile (· != '='))
    match cs.dropWhile (· != '=') with
    | [] => .long name none
    | _ :: value => .long name (some (String.ofList value))
  | '-' :: c :: cs => .letters (c :: cs)
  | _ => .plain argument

/-- Reads arguments behind what has been read so far. -/
def Given.readFrom (g : Given) : List String → Request
  | [] => g.request
  | argument :: arguments =>
    match Argument.ofString argument with
    | .endOfOptions => if arguments.isEmpty then g.request else .refused
    | .plain _ => .refused
    | .letters cs =>
      match g.raiseLetters cs with
      | .ok g => g.readFrom arguments
      | .error answer => answer
    | .long name value? =>
      match Flag.ofName? name, Setting.ofName? name, value?, arguments with
      | some flag, _, none, arguments =>
        match g.raise flag with
        | .ok g => g.readFrom arguments
        | .error answer => answer
      | none, some setting, some value, arguments =>
        match g.set setting value with
        | some g => g.readFrom arguments
        | none => .refused
      | none, some setting, none, next :: arguments =>
        match Argument.ofString next with
        | .plain value =>
          match g.set setting value with
          | some g => g.readFrom arguments
          | none => .refused
        | _ => .refused
      | _, _, _, _ => .refused

def request (arguments : List String) : Request :=
  Given.nothing.readFrom arguments

end Corpus.CommandLine
