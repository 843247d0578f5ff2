import LibraryPaths.Path.Basic

/-!
# Trees of files

A node is a file, a symbolic link or a directory with its members.  Symbolic links keep their target as it
was written.  `Node.find?` goes down a tree by names; whatever it finds lies in directories only, so no
entry can be without its parents.  `Node.put` and `Node.erase` change the tree at a location.
-/

set_option autoImplicit false

namespace LibraryPaths

/-- The names that lead from the root to an entry. -/
abbrev Location := List Name

/-- What a name in a directory stands for. -/
inductive Entry where
  | directory
  | file (content : List UInt8)
  | link (target : Path)
  deriving DecidableEq, Repr

/-- A tree of files. -/
inductive Node where
  | file (content : List UInt8)
  | link (target : Path)
  | directory (members : List (Name × Node))
  deriving Repr

namespace Node

/-- What a node is, without its members. -/
def entry : Node → Entry
  | .file content => .file content
  | .link target => .link target
  | .directory _ => .directory

/-- The members of a directory; other nodes have none. -/
def members : Node → List (Name × Node)
  | .directory members => members
  | _ => []

/-- The node that some names lead to. -/
def find? (node : Node) : Location → Option Node
  | [] => some node
  | name :: rest =>
    match node.members.lookup name with
    | some member => member.find? rest
    | none => none

/-- Some members with a node under a name, in place of the one that was there. -/
def setMember (name : Name) (node : Node) : List (Name × Node) → List (Name × Node)
  | [] => [(name, node)]
  | (n, old) :: rest => if n = name then (n, node) :: rest else (n, old) :: setMember name node rest

/-- A tree with a node put at a location.  Directories that are missing on the way are made; a file or a
link on the way stays as it is. -/
def put (new : Node) : Location → Node → Node
  | [], _ => new
  | name :: rest, .directory members =>
    let member := (members.lookup name).getD (.directory [])
    .directory (setMember name (put new rest member) members)
  | _ :: _, node => node

/-- A tree without the node at a location; the root stays. -/
def erase : Location → Node → Node
  | [name], .directory members => .directory (members.filter (·.1 != name))
  | name :: rest, .directory members =>
    match members.lookup name with
    | some member => .directory (setMember name (erase rest member) members)
    | none => .directory members
  | _, node => node

@[simp] theorem find?_nil (node : Node) : node.find? [] = some node := by simp [find?]

theorem find?_append (node : Node) (l m : Location) :
    node.find? (l ++ m) = (node.find? l).bind (·.find? m) := by
  induction l generalizing node with
  | nil => simp
  | cons name rest ih =>
    simp only [List.cons_append, find?]
    split <;> simp_all

/-- Only a directory has anything below it. -/
theorem isDirectory_of_find?_concat {node inner : Node} {l : Location} {name : Name}
    (h : node.find? (l ++ [name]) = some inner) : ∃ members, node.find? l = some (.directory members) := by
  rw [find?_append] at h
  obtain ⟨outer, ho, hi⟩ := Option.bind_eq_some_iff.1 h
  cases outer with
  | directory members => exact ⟨members, ho⟩
  | _ => simp [find?, members] at hi

end Node

end LibraryPaths
