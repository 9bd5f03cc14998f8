import Corpus.Disk.Access
import Corpus.Source.Kind

/-!
# Finding source files

The source files below a root are all files there, at any depth, whose path tells a known kind.
They are listed in the order of their paths, whatever order the directories list their entries
in: the place of a file in the list decides its random sizes, so it must not depend on the disk.

A directory is asked for its entries by its path, so one whose path is too long keeps them to
itself. The entries themselves are not asked for: a file is found however long its own path is,
though it cannot be read then.
-/

set_option autoImplicit false

namespace Corpus

/-- A file found, and the kind as which it is read. -/
structure SourceFile where
  path : Path
  kind : FileKind
  deriving DecidableEq, Repr

namespace SourceFile

/-- The source file with the given path, if its kind is known. -/
def ofPath? (p : Path) : Option SourceFile :=
  (FileKind.ofPath? p).map fun kind => ⟨p, kind⟩

end SourceFile

mutual

/-- The paths of all files in a tree, when the tree has the given path. A directory whose path is
too long lists nothing. -/
def Node.files (path : Path) : Node → List Path
  | .file _ => [path]
  | .directory entries => if Disk.isTooLong path then [] else Node.filesOfEntries path entries

/-- The paths of all files in the entries of a directory with the given path. -/
def Node.filesOfEntries (path : Path) : List (String × Node) → List Path
  | [] => []
  | (name, n) :: entries => n.files (path.entry name) ++ Node.filesOfEntries path entries

end

namespace Disk

/-- The source files at or below a root. A root that leads nowhere has none. -/
def sourcesAt (d : Disk) (root : Path) : List SourceFile :=
  match d.find root with
  | .error _ => []
  | .ok n =>
    ((n.files root).filterMap SourceFile.ofPath?).mergeSort fun a b => a.path.comesBefore b.path

/-- The source files at or below several roots, root by root. A file that is below two of them is
listed twice. -/
def sources (d : Disk) (roots : List Path) : List SourceFile :=
  roots.flatMap d.sourcesAt

end Disk

end Corpus
