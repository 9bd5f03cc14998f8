import Corpus.Disk.Node
import Corpus.Path
import Corpus.Text.Quoted
import Corpus.Text.Utf8

/-!
# Reading and writing files

A `Disk` is a directory tree with one directory to start from. A path is followed from there, or
from the top if it begins at the root, one stretch between separators after the other: every step
needs a directory to stand in, a dot stays, two dots go up, and a name goes down to an entry that
must exist. A path that ends in a separator or in dots names a directory.

Nothing here fails halfway: an operation gives the disk afterwards or the reason why the disk is as
before. The exception is `makeDirectories`, which may have made some directories when it meets one
that it cannot make, and says so by giving the disk in both cases.
-/

set_option autoImplicit false

namespace Corpus

open Corpus.Text

/-- Why a file or directory cannot be reached or made. -/
inductive DiskError where
  | notFound
  | alreadyExists
  | notDirectory
  | isDirectory
  | nameTooLong
  /-- The path holds a NUL character, with which no path can be asked for. -/
  | nulInPath
  deriving DecidableEq, Repr

namespace DiskError

/-- The number of an error, where the system has one for it. -/
def code? : DiskError → Option Nat
  | .notFound => some 2
  | .alreadyExists => some 17
  | .notDirectory => some 20
  | .isDirectory => some 21
  | .nameTooLong => some 36
  | .nulInPath => none

/-- The wording of an error, without its number. -/
def description : DiskError → String
  | .notFound => "No such file or directory"
  | .alreadyExists => "File exists"
  | .notDirectory => "Not a directory"
  | .isDirectory => "Is a directory"
  | .nameTooLong => "File name too long"
  | .nulInPath => "file name contained an unexpected NUL byte"

def kind : DiskError → String
  | .notFound => "NotFound"
  | .alreadyExists => "AlreadyExists"
  | .notDirectory => "NotADirectory"
  | .isDirectory => "IsADirectory"
  | .nameTooLong => "InvalidFilename"
  | .nulInPath => "InvalidInput"

def message (e : DiskError) : String :=
  match e.code? with
  | some code => s!"{e.description} (os error {code})"
  | none => e.description

def detail (e : DiskError) : String :=
  match e.code? with
  | some code =>
    s!"Os \x7b code: {code}, kind: {e.kind}, message: {quoted e.description} \x7d"
  | none => s!"Error \x7b kind: {e.kind}, message: {quoted e.description} \x7d"

end DiskError

/-- A directory tree, and the directory that paths start from. -/
structure Disk where
  tree : Node
  home : Place

namespace Disk

/-! ## Following a path -/

/-- The longest name that an entry can have, in bytes. -/
def maxName : Nat := 255

/-- The longest path that can be asked for, in bytes. -/
def maxPath : Nat := 4095

def isTooLong (p : Path) : Bool :=
  maxPath < p.spelling.utf8ByteSize

/-- Goes on by one step. The directory above the top is the top. -/
def step (top : Node) (here : Trail) (stretch : String) : Except DiskError Trail :=
  match here.node top with
  | .file _ => .error .notDirectory
  | .directory entries =>
    if stretch = "." then .ok here
    else if stretch = ".." then .ok here.tail
    else if maxName < stretch.utf8ByteSize then .error .nameTooLong
    else match entries.lookup stretch with
      | some n => .ok ((stretch, n) :: here)
      | none => .error .notFound

/-- Goes from the top by several steps. -/
def walk (top : Node) (steps : List String) : Except DiskError Trail :=
  steps.foldlM (step top) []

/-- A path as it is followed: by which steps from the top, and whether it has to end in a
directory. -/
structure Route where
  steps : List String
  wantsDirectory : Bool

/-- The route of a path. The empty path leads nowhere. -/
def route (d : Disk) (p : Path) : Except DiskError Route :=
  let spelling := p.spelling.toList
  let steps := ((Path.stretches spelling).filter (!·.isEmpty)).map String.ofList
  if spelling.contains '\x00' then .error .nulInPath
  else if isTooLong p then .error .nameTooLong
  else if spelling.isEmpty then .error .notFound
  else
    .ok {
      steps := if spelling.head? = some '/' then steps else d.home ++ steps
      wantsDirectory := spelling.getLast? = some '/' }

def find (d : Disk) (p : Path) : Except DiskError Node := do
  let r ← d.route p
  let there ← walk d.tree r.steps
  let n := there.node d.tree
  if r.wantsDirectory && !n.isDirectory then .error .notDirectory else .ok n

def leadsToDirectory (d : Disk) (p : Path) : Bool :=
  match d.find p with
  | .ok n => n.isDirectory
  | .error _ => false

/-! ## Files -/

def read (d : Disk) (p : Path) : Except DiskError (List UInt8) := do
  match ← d.find p with
  | .file bytes => .ok bytes
  | .directory _ => .error .isDirectory

def readText (d : Disk) (p : Path) : Except DiskError String := do
  let bytes ← d.read p
  pure (String.ofList (Utf8.decode bytes))

/-- Where a path would put a new entry: the directory, what is in it, and the name. `none` stands
for a path that ends in no name: such a path can only lead to a directory that exists. -/
def newEntry (d : Disk) (r : Route) :
    Except DiskError (Option (Place × List (String × Node) × String)) :=
  match r.steps.getLast? with
  | none => .ok none
  | some last => do
    let parent ← walk d.tree r.steps.dropLast
    match parent.node d.tree with
    | .file _ => .error .notDirectory
    | .directory entries =>
      if last = "." || last = ".." then .ok none else .ok (some (parent.place, entries, last))

/-- Writes a file: its bytes are replaced if it exists, and else it is made. -/
def write (d : Disk) (p : Path) (bytes : List UInt8) : Except DiskError Disk := do
  let r ← d.route p
  match ← d.newEntry r with
  | none => .error .isDirectory
  | some (parent, entries, name) =>
    if r.wantsDirectory then .error .isDirectory
    else if maxName < name.utf8ByteSize then .error .nameTooLong
    else match entries.lookup name with
      | some (.directory _) => .error .isDirectory
      | _ => .ok { d with tree := Node.put (.file bytes) (parent ++ [name]) d.tree }

/-! ## Directories -/

def makeDirectory (d : Disk) (p : Path) : Except DiskError Disk := do
  let r ← d.route p
  match ← d.newEntry r with
  | none => .error .alreadyExists
  | some (parent, entries, name) =>
    if maxName < name.utf8ByteSize then .error .nameTooLong
    else match entries.lookup name with
      | some _ => .error .alreadyExists
      | none => .ok { d with tree := Node.put (.directory []) (parent ++ [name]) d.tree }

/-- Makes a directory unless it is there already. -/
def ensureDirectory (d : Disk) (p : Path) : Except DiskError Disk :=
  match d.makeDirectory p with
  | .ok made => .ok made
  | .error e => if d.leadsToDirectory p then .ok d else .error e

/-- Makes a directory that must exist afterwards. The paths after the first are the directories
around it, from the inside out; they are made only where the one inside cannot be made for want of
them. -/
def makeDirectories (d : Disk) : List Path → Except DiskError Unit × Disk
  | [] => (.ok (), d)
  | p :: around =>
    match d.ensureDirectory p with
    | .ok made => (.ok (), made)
    | .error .notFound =>
      match d.makeDirectories around with
      | (.error e, made) => (.error e, made)
      | (.ok (), made) =>
        match made.ensureDirectory p with
        | .ok whole => (.ok (), whole)
        | .error e => (.error e, made)
    | .error e => (.error e, d)

/-- Writes a text to a file, and makes the directories around it where they are missing. -/
def writeText (d : Disk) (p : Path) (text : List Char) : Except DiskError Unit × Disk :=
  match d.makeDirectories p.around with
  | (.error e, made) => (.error e, made)
  | (.ok (), made) =>
    match made.write p (Utf8.encode text) with
    | .ok written => (.ok (), written)
    | .error e => (.error e, made)

end Disk

end Corpus
