/-!
# Paths

A path is kept as it is spelled, since messages and records of failures show it that way. Its
meaning is in its components: repeated separators, and dots between other components, say nothing
and are dropped. Order is by components, so that a directory's content stays together: `a/b.c`
comes before `a.c`, although `.` comes before `/`.
-/

set_option autoImplicit false

namespace Corpus

/-- A path, as it is spelled. -/
structure Path where
  spelling : String
  deriving DecidableEq, Repr, Inhabited

namespace Path

/-- One step of a path. -/
inductive Component where
  | root
  /-- The directory where one is, written as a dot at the beginning. -/
  | here
  | up
  /-- An entry of the directory where one is. -/
  | name (s : String)
  deriving DecidableEq, Repr

namespace Component

/-- Components of different sorts are ordered by sort. -/
def rank : Component → Nat
  | .root => 0
  | .here => 1
  | .up => 2
  | .name _ => 3

/-- Names are ordered by their characters, which is the order of their UTF-8 bytes. -/
def text : Component → String
  | .name s => s
  | _ => ""

instance : Ord Component where
  compare a b := (compare a.rank b.rank).then (compare a.text b.text)

/-- The component that a stretch between separators stands for, if it stands for any. -/
def ofStretch? (s : List Char) : Option Component :=
  match s with
  | [] => none
  | ['.'] => none
  | ['.', '.'] => some .up
  | _ => some (.name (String.ofList s))

end Component

/-- Cuts a spelling at every separator; between two of them may be nothing. -/
def stretches (spelling : List Char) : List (List Char) :=
  spelling.splitOn '/'

/-- The components of a path. A dot counts only at the beginning of a path that does not begin at
the root. -/
def components (p : Path) : List Component :=
  match stretches p.spelling.toList with
  | [] => []
  | first :: more =>
    let steps := more.filterMap Component.ofStretch?
    if first = [] then
      if more = [] then steps else .root :: steps
    else if first = ['.'] then .here :: steps
    else (Component.ofStretch? first).toList ++ steps

instance : Ord Path where
  compare p q := List.compareLex compare p.components q.components

/-- Whether the first path comes no later than the second. -/
def comesBefore (p q : Path) : Bool :=
  (compare p q).isLE

/-- The path of an entry of the directory that the path names. -/
def entry (p : Path) (name : String) : Path :=
  match p.spelling.toList.getLast? with
  | none => ⟨name⟩
  | some '/' => ⟨p.spelling ++ name⟩
  | some _ => ⟨p.spelling ++ "/" ++ name⟩

/-- Whether a stretch says nothing. -/
def isSilent (stretch : List Char) : Bool :=
  (Component.ofStretch? stretch).isNone

/-- The path spelled by stretches, of which those after the first are given backwards. Silent ones
at the end are left out. -/
def ofBackwards (first : List Char) (more : List (List Char)) : Path :=
  match (more.dropWhile isSilent).reverse with
  | [] => if first = [] then ⟨"/"⟩ else ⟨String.ofList first⟩
  | steps => ⟨String.ofList (['/'].intercalate (first :: steps))⟩

/-- The directories around what is spelled by stretches, of which those after the first are given
backwards. -/
def aroundBackwards (first : List Char) : List (List Char) → List Path
  | [] => []
  | stretch :: before =>
    if isSilent stretch then aroundBackwards first before
    else ofBackwards first before :: aroundBackwards first before

/-- The directories around what a path names, from the inside out, as far as the path spells
them. Each is spelled as it is in the path, repeated separators and dots in between included. -/
def around (p : Path) : List Path :=
  match stretches p.spelling.toList with
  | [] => []
  | first :: more => aroundBackwards first more.reverse

/-- The name at the end of a path, if the path ends in a name. -/
def fileName? (p : Path) : Option String :=
  match p.components.getLast? with
  | some (.name s) => some s
  | _ => none

/-- What follows the last dot of a file name. A dot at the beginning of the name hides the file
and begins no extension. -/
def extension? (p : Path) : Option String := do
  let name ← p.fileName?
  let reversed := name.toList.reverse
  let after := reversed.takeWhile (· != '.')
  match reversed.dropWhile (· != '.') with
  | _dot :: _ :: _ => some (String.ofList after.reverse)
  | _ => none

end Path

end Corpus
