import Corpus.CommandLine.Run

/-!
# The program

The outer layer around `CommandLine.run`: it takes a picture of the part of the file system that
the command line names, runs on the picture, and carries the changes over. Nothing is decided
here. A picture holds the source roots whole, and of the way to the target only what is needed to
see which directories are there.
-/

set_option autoImplicit false

namespace Corpus.Main

open Corpus.CommandLine

/-- A picture of a directory entry and all below it. Links are left out. -/
partial def picture (entry : IO.FS.DirEntry) : IO (Option (String × Node)) := do
  match (← entry.path.symlinkMetadata).type with
  | .dir =>
    let entries ← entry.path.readDir
    let below ← entries.toList.filterMapM fun e => try picture e catch _ => pure none
    return some (entry.fileName, .directory below)
  | .file => return some (entry.fileName, .file (← IO.FS.readBinFile entry.path).toList)
  | _ => return none

/-- The names on the way from the top of the file system to what a path names, dots resolved. -/
def placeOf (home : Place) (p : Path) : Place :=
  p.components.foldl
    (fun here c => match c with
      | .root => []
      | .here => here
      | .up => here.dropLast
      | .name s => here ++ [s])
    home

/-- How a place is spelled. -/
def spelled (place : Place) : String :=
  "/" ++ String.intercalate "/" place

/-- Adds to a picture the directories on the way to a place, as far as they exist, and what is
there. Only with `whole` is a directory at the place itself filled, or a file given its bytes. -/
def addWay (tree : Node) (place : Place) (whole : Bool) : IO Node := do
  let mut tree := tree
  for n in List.range (place.length + 1) do
    let here := place.take n
    if (tree.at? here).isNone || (whole && n = place.length) then
      try
        let path ← IO.FS.realPath (spelled here)
        match (← path.metadata).type with
        | .dir =>
          let entries ← path.readDir
          let below ←
            if whole && n = place.length then
              entries.toList.filterMapM fun e => try picture e catch _ => pure none
            else pure []
          tree := Node.put (.directory below) here tree
        | .file =>
          let bytes ← if whole then pure (← IO.FS.readBinFile path).toList else pure []
          tree := Node.put (.file bytes) here tree
        | _ => pure ()
      catch _ => pure ()
  return tree

/-- The picture that a request needs. -/
def pictureFor (options : Options) : IO Disk := do
  let home := (Path.mk (← IO.FS.realPath ".").toString).components.filterMap fun
    | .name s => some s
    | _ => none
  let mut tree : Node := .directory []
  for source in options.sources do
    tree ← addWay tree (placeOf home source) true
  tree ← addWay tree home false
  tree ← addWay tree (placeOf home options.target) false
  return ⟨tree, home⟩

/-- Carries over the directories that a run has made around the target. One that is there already,
under another spelling, is passed over. -/
def carryDirectories (before after : Disk) (target : Path) : IO Unit := do
  for p in target.around.reverse do
    if after.leadsToDirectory p && !before.leadsToDirectory p then
      try IO.FS.createDir p.spelling catch _ => pure ()

/-- Carries over the target that a successful run has written. -/
def carryTarget (after : Disk) (target : Path) : IO Unit := do
  match after.read target with
  | .ok bytes => IO.FS.writeBinFile target.spelling (ByteArray.mk bytes.toArray)
  | .error _ => pure ()

/-- A seed for runs that ask for none. -/
def entropy : IO UInt64 := do
  let bytes ← IO.getRandomBytes 8
  return bytes.toList.foldl (fun n b => n * 256 + b.toUInt64) 0

end Corpus.Main

open Corpus Corpus.CommandLine in
/-- Runs the command line. -/
def main (arguments : List String) : IO UInt32 := do
  let disk ← match request arguments with
    | .run options => Main.pictureFor options
    | _ => pure ⟨.directory [], []⟩
  let exit := run disk arguments (← Main.entropy)
  match request arguments with
  | .run options =>
    Main.carryDirectories disk exit.disk options.target
    if exit.code = 0 then Main.carryTarget exit.disk options.target
  | _ => pure ()
  IO.print exit.stdout
  IO.eprint exit.stderr
  return exit.code.toUInt32
