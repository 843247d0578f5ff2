/-!
# Globs

A glob describes a set of octet sequences.  It is matched against all beginnings of a text at once: a text
of `n` octets has `n + 1` positions, each of them marked or not, and `Glob.reach` turns the marks on the
positions where a match may begin into the marks on those where it may end.  A text is described as a whole
if its end is reached from its beginning, and no octet of it is looked at more often than the glob is large.
-/

set_option autoImplicit false

namespace LibraryPaths

/-- A set of octets: the members of some closed ranges, or all others. -/
structure OctetSet where
  ranges : List (UInt8 × UInt8)
  negated : Bool
  deriving DecidableEq, Repr

namespace OctetSet

/-- The set that holds one octet. -/
def single (b : UInt8) : OctetSet := ⟨[(b, b)], false⟩

/-- The set that holds every octet but one. -/
def except (b : UInt8) : OctetSet := ⟨[(b, b)], true⟩

/-- The set of all octets. -/
def all : OctetSet := ⟨[], true⟩

/-- Whether an octet belongs to a set. -/
def holds (set : OctetSet) (b : UInt8) : Bool :=
  set.ranges.any (fun (low, high) => decide (low ≤ b ∧ b ≤ high)) != set.negated

end OctetSet

/-- A description of octet sequences. -/
inductive Glob where
  /-- The empty sequence. -/
  | nothing
  /-- One octet of a set. -/
  | one (set : OctetSet)
  /-- Any number of octets of a set. -/
  | many (set : OctetSet)
  | seq (first second : Glob)
  | either (first second : Glob)
  deriving DecidableEq, Repr

namespace Glob

/-- One description after another, where the empty sequence is left out. -/
def andThen : Glob → Glob → Glob
  | .nothing, g => g
  | g, .nothing => g
  | g, h => .seq g h

/-- Some descriptions one after the other. -/
def chain (globs : List Glob) : Glob := globs.foldr andThen .nothing

/-- The sequence that consists of some octets. -/
def octets (bytes : List UInt8) : Glob := chain (bytes.map fun b => .one (.single b))

/-- The positions behind one octet of a set that follows a marked position. -/
def afterOne (set : OctetSet) (text : List UInt8) (marks : List Bool) : List Bool :=
  false :: text.zipWith (fun b marked => marked && set.holds b) marks

/-- The positions behind a run of octets of a set, perhaps an empty one, that follows a marked position.
`running` tells whether a run comes in from before the text. -/
def afterRun (set : OctetSet) (running : Bool) : List UInt8 → List Bool → List Bool
  | b :: text, marked :: marks =>
    (marked || running) :: afterRun set ((marked || running) && set.holds b) text marks
  | [], marked :: _ => [marked || running]
  | _, [] => []

/-- The positions of a text behind what a glob describes, where that begins at a marked position. -/
def reach : Glob → List UInt8 → List Bool → List Bool
  | .nothing, _, marks => marks
  | .one set, text, marks => afterOne set text marks
  | .many set, text, marks => afterRun set false text marks
  | .seq g h, text, marks => h.reach text (g.reach text marks)
  | .either g h, text, marks => (g.reach text marks).zipWith or (h.reach text marks)

/-- The marks of a text of which only the beginning is marked. -/
def startMarks (text : List UInt8) : List Bool := true :: text.map fun _ => false

/-- Whether a glob describes a text. -/
def describes (g : Glob) (text : List UInt8) : Bool :=
  (g.reach text (startMarks text)).getLast? == some true

end Glob

end LibraryPaths
