/-!
# Directory trees

What is on a disk is a tree: files hold bytes, and directories hold entries with names. The order
of the entries is the order in which a directory lists them and means nothing; that no two of them
have one name is a property of a tree (`Node.Proper`), kept by all that is done to it.

A place in a tree is a list of names, from the top down. A trail is how one gets to a place: it
holds the nodes passed as well, so that going on from its end, down or up again, does not begin at
the top (`Trail.at?_place`).
-/

set_option autoImplicit false

namespace Corpus

inductive Node where
  | file (bytes : List UInt8)
  | directory (entries : List (String × Node))
  deriving Inhabited

/-- A place in a tree: the names on the way down. -/
abbrev Place := List String

namespace Node

def isDirectory : Node → Bool
  | .directory _ => true
  | .file _ => false

def child? : Node → String → Option Node
  | .directory entries, name => entries.lookup name
  | .file _, _ => none

def at? (n : Node) : Place → Option Node
  | [] => some n
  | name :: place =>
    match n.child? name with
    | some child => child.at? place
    | none => none

theorem at?_append (n : Node) (p q : Place) : n.at? (p ++ q) = (n.at? p).bind (·.at? q) := by
  induction p generalizing n with
  | nil => rfl
  | cons name p ih =>
    simp only [List.cons_append, at?]
    cases n.child? name with
    | none => rfl
    | some child => exact ih child

/-- Entries with one changed: the entry of that name gets another node, and where there is none it
is added behind the others. -/
def putEntry (name : String) (node : Node) : List (String × Node) → List (String × Node)
  | [] => [(name, node)]
  | (other, n) :: entries =>
    if other = name then (name, node) :: entries else (other, n) :: putEntry name node entries

/-- The tree with a node put at a place. Nothing changes if the way there does not lead through
directories. -/
def put (node : Node) : Place → Node → Node
  | [], _ => node
  | [name], .directory entries => .directory (putEntry name node entries)
  | name :: next :: place, .directory entries =>
    match entries.lookup name with
    | some child => .directory (putEntry name (put node (next :: place) child) entries)
    | none => .directory entries
  | _ :: _, .file bytes => .file bytes

mutual

/-- In no directory of the tree do two entries have one name. -/
def Proper : Node → Prop
  | .file _ => True
  | .directory entries => (entries.map Prod.fst).Nodup ∧ ProperEntries entries

def ProperEntries : List (String × Node) → Prop
  | [] => True
  | (_, n) :: entries => n.Proper ∧ ProperEntries entries

end

end Node

/-- A way down a tree: the entries passed, the last one first. -/
abbrev Trail := List (String × Node)

namespace Trail

/-- The node at the end of a way down from the given top. -/
def node (top : Node) : Trail → Node
  | [] => top
  | (_, n) :: _ => n

/-- The place at the end of a way. -/
def place (t : Trail) : Place :=
  (t.map Prod.fst).reverse

/-- Each entry is one of the node before it. -/
def IsIn (top : Node) : Trail → Prop
  | [] => True
  | (name, n) :: t => (node top t).child? name = some n ∧ IsIn top t

/-- A trail ends at the node of its place. -/
theorem at?_place {top : Node} {t : Trail} (h : IsIn top t) :
    top.at? t.place = some (node top t) := by
  induction t with
  | nil => rfl
  | cons entry t ih =>
    obtain ⟨name, n⟩ := entry
    obtain ⟨child, inside⟩ := h
    have before : top.at? (t.map Prod.fst).reverse = some (node top t) := ih inside
    simp only [place, List.map_cons, List.reverse_cons, Node.at?_append, before, Option.bind_some]
    rw [Node.at?, child]
    rfl

end Trail

end Corpus
