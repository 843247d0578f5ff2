import LibraryPaths.Text.Utf8

/-!
# Paths

A path is kept as it was spelled, octet for octet, since it is shown that way; what it means is its list
of components.  Doubled and trailing slashes and the segment `.` leave no component, except that a
leading `.` of a relative path is one.  Two paths are the *same* if their components agree: `//a`, `/a/`
and `/./a` are the same, `/x/../a` is another path.

* `Path.join` is the textual join: an absolute right side replaces the left one;
* `Path.parent?` and `Path.ofComponents` give back spelled paths;
* `Path.startsWith` and `Path.same` compare components.
-/

set_option autoImplicit false

namespace LibraryPaths

/-- A name of a directory entry, or any text between two slashes, as octets. -/
abbrev Name := List UInt8

/-- The octet between the parts of a path. -/
def slash : UInt8 := 47

/-- The octet before an extension. -/
def dot : UInt8 := 46

/-- A path as it was spelled. -/
structure Path where
  bytes : List UInt8
  deriving DecidableEq, Repr, Inhabited

/-- A meaningful part of a path. -/
inductive Component where
  /-- The root directory. -/
  | root
  /-- A leading `.`. -/
  | here
  /-- The segment `..`. -/
  | up
  /-- An ordinary name. -/
  | name (n : Name)
  deriving DecidableEq, Repr

/-- The component a text between slashes stands for, where it is not the first of its path. -/
def Component.ofPiece? (piece : Name) : Option Component :=
  if piece = [] ∨ piece = [dot] then none
  else if piece = [dot, dot] then some .up
  else some (.name piece)

namespace Path

/-- The path spelled by a text. -/
def ofChars (text : List Char) : Path := ⟨Utf8.encode text⟩

/-- The path spelled by a text. -/
def ofString (text : String) : Path := ofChars text.toList

/-- The text of a path, U+FFFD standing for what is not UTF-8. -/
def toText (p : Path) : String := String.ofList (Utf8.decodeLossy p.bytes)

/-- The text of a path that is UTF-8. -/
def toText? (p : Path) : Option String := (Utf8.decode? p.bytes).map String.ofList

/-- The texts between the slashes of a path; there is at least one. -/
def pieces (p : Path) : List Name := p.bytes.splitOn slash

/-- The path with the given texts between its slashes. -/
def ofPieces (pieces : List Name) : Path := ⟨[slash].intercalate pieces⟩

/-- Whether a path begins with a slash. -/
def isAbsolute (p : Path) : Bool := p.bytes.head? == some slash

/-- The components of a path given by the texts between its slashes. -/
def componentsOfPieces : List Name → List Component
  | [] => []
  | first :: rest =>
    let tail := rest.filterMap Component.ofPiece?
    if first = [] then (if rest = [] then [] else .root :: tail)
    else if first = [dot] then .here :: tail
    else (Component.ofPiece? first).toList ++ tail

/-- The components of a path. -/
def components (p : Path) : List Component := componentsOfPieces p.pieces

/-- Whether two paths have the same components. -/
def same (p q : Path) : Bool := p.components == q.components

/-- Whether two lists of paths agree place by place. -/
def sameList : List Path → List Path → Bool
  | [], [] => true
  | p :: ps, q :: qs => p.same q && sameList ps qs
  | _, _ => false

/-- Whether the components of a path begin with those of another. -/
def startsWith (p base : Path) : Bool := base.components.isPrefixOf p.components

/-- A path followed by another one.  An absolute right side replaces the left one, and joining the empty
path adds a slash at the end. -/
def join (p q : Path) : Path :=
  if q.isAbsolute then q
  else if p.bytes = [] ∨ p.bytes.getLast? = some slash then ⟨p.bytes ++ q.bytes⟩
  else ⟨p.bytes ++ slash :: q.bytes⟩

/-- A path followed by a text. -/
def joinText (p : Path) (text : String) : Path := p.join (ofString text)

/-- The path that consists of one component. -/
def ofComponent : Component → Path
  | .root => ⟨[slash]⟩
  | .here => ⟨[dot]⟩
  | .up => ⟨[dot, dot]⟩
  | .name n => ⟨n⟩

/-- The plain spelling of a list of components. -/
def ofComponents (cs : List Component) : Path :=
  cs.foldl (fun p c => p.join (ofComponent c)) ⟨[]⟩

/-- The absolute path of a directory entry, given by the names that lead to it. -/
def ofNames (names : List Name) : Path := ⟨slash :: [slash].intercalate names⟩

/-- Whether a text between slashes leaves no component behind the first place. -/
def isFiller (piece : Name) : Bool := piece == [] || piece == [dot]

/-- Removes the texts at the end that leave no component. -/
def trimFillers (pieces : List Name) : List Name :=
  (pieces.reverse.dropWhile isFiller).reverse

/-- The spelling of a path without its last component; the root and the empty path have none to drop. -/
def parent? (p : Path) : Option Path :=
  match p.pieces with
  | [] => none
  | first :: rest =>
    match (trimFillers rest).reverse with
    | [] => if first = [] then none else some ⟨[]⟩
    | _ :: others =>
      match first, trimFillers others.reverse with
      | [], [] => some ⟨[slash]⟩
      | first, kept => some (ofPieces (first :: kept))

/-- The last component of a path, if it is an ordinary name. -/
def fileName? (p : Path) : Option Name :=
  match p.components.getLast? with
  | some (.name n) => some n
  | _ => none

/-- What follows the last dot of the file name; a dot at its beginning does not count. -/
def extension? (p : Path) : Option Name := do
  let name ← p.fileName?
  let after := name.reverse.takeWhile (· != dot)
  if after.length + 1 < name.length then some after.reverse else none

end Path

/-- The place of a component in the order of paths, as a list compared from the left. -/
def Component.key : Component → List Nat
  | .root => [0]
  | .here => [1]
  | .up => [2]
  | .name n => 3 :: n.map UInt8.toNat

/-- Whether a path comes no later than another: components are compared from the left, names octet by
octet. -/
def Path.le (p q : Path) : Bool :=
  !(q.components.map Component.key).lex (p.components.map Component.key) fun c d => c.lex d Nat.blt

end LibraryPaths
