import LibraryPaths.Ignore.Glob
import LibraryPaths.Path.Basic

/-!
# Patterns of ignore files

A pattern is matched against a path whose parts are divided by slashes.

* `?` stands for one octet and `*` for any number of octets, none of them a slash;
* `**` stands for any number of whole parts of the path where it is one part of the pattern, and for `*`
  elsewhere;
* `[…]` stands for one octet of a set, `!` or `^` behind the bracket for one octet outside of it;
* `{a,b}` stands for any of its branches, of which the empty ones do not count;
* a backslash takes away the meaning of the character behind it.

A pattern with a brace that has no partner, with a range that runs backwards or with nothing behind a
backslash has no meaning.  A bracket that is never closed stands for itself, and so do those behind it.

`Pattern.marks?` divides a pattern into marks, `Pattern.read?` builds the glob from them.  Beside the glob it
counts how many levels the pattern nests, since only patterns up to a certain depth can be used.  A level is
a repetition, a set, a set of several ranges, a group, a choice among several branches, or a branch of
several elements; octets that stand for themselves are elements without a level of their own.
-/

set_option autoImplicit false

namespace LibraryPaths.Pattern

/-- The smallest parts of a pattern. -/
inductive Mark where
  /-- A character that stands for itself; whether a backslash stood before it. -/
  | char (c : Char) (escaped : Bool)
  /-- One octet but a slash. -/
  | any
  | star
  | set (octets : OctetSet)
  | opening
  | closing
  | comma
  deriving DecidableEq, Repr

/-! ## Sets -/

/-- The ranges between the brackets of a set, given the range that may still be extended.  A hyphen at the
end stands for itself. -/
def ranges? (last : Char × Char) : List Char → Option (List (Char × Char))
  | [] => some [last]
  | ['-'] => some [last, ('-', '-')]
  | '-' :: c :: rest => if c < last.1 then none else ranges? (last.1, c) rest
  | c :: rest => (ranges? (c, c) rest).map (last :: ·)

/-- A range of characters as ranges of octets.  Of a character of several octets, each octet belongs to the
set; the range lies between the last octet of its first and the first octet of its last character. -/
def octetRanges (range : Char × Char) : List (UInt8 × UInt8) :=
  let first := String.utf8EncodeChar range.1
  let last := String.utf8EncodeChar range.2
  if range.1 = range.2 then first.map fun b => (b, b)
  else
    first.dropLast.map (fun b => (b, b)) ++ (first.drop (first.length - 1)).zip last ++
      (last.drop 1).map fun b => (b, b)

/-- What an opening bracket turns out to be. -/
inductive Bracket (text : List Char) where
  /-- A set, and what follows its closing bracket. -/
  | set (octets : OctetSet) (rest : List Char) (shorter : rest.length < text.length)
  /-- It is never closed. -/
  | unclosed

theorem length_dropWhile_le (f : Char → Bool) (text : List Char) :
    (text.dropWhile f).length ≤ text.length :=
  (List.dropWhile_suffix f).sublist.length_le

theorem length_lt_of_dropWhile {f : Char → Bool} {text after : List Char} {first c : Char}
    (h : text.dropWhile f = c :: after) : after.length < (first :: text).length := by
  have := length_dropWhile_le f text
  rw [h] at this
  simp only [List.length_cons] at this ⊢
  omega

/-- Whether a character does not close a set. -/
def isInSet (c : Char) : Bool := c != ']'

/-- Reads the members of a set up to the closing bracket.  The first character is a member, whatever it
is. -/
def members? (negated : Bool) (text : List Char) : Option (Bracket text) :=
  match text with
  | [] => some .unclosed
  | first :: rest =>
    (ranges? (first, first) (rest.takeWhile isInSet)).map fun ranges =>
      match h : rest.dropWhile isInSet with
      | [] => .unclosed
      | _ :: after =>
        .set ⟨ranges.flatMap octetRanges, negated⟩ after (length_lt_of_dropWhile h)

/-- Reads what stands behind an opening bracket. -/
def bracket? (text : List Char) : Option (Bracket text) :=
  match text with
  | c :: rest =>
    if c = '!' ∨ c = '^' then
      (members? true rest).map fun bracket =>
        match bracket with
        | .set octets after h => .set octets after (Nat.lt_succ_of_lt h)
        | .unclosed => .unclosed
    else members? false (c :: rest)
  | [] => some .unclosed

/-! ## Marks -/

/-- The mark of a character that needs no look at what follows it. -/
def plainMark (c : Char) : Mark :=
  match c with
  | '?' => .any
  | '*' => .star
  | '\x7b' => .opening
  | '\x7d' => .closing
  | ',' => .comma
  | c => .char c false

/-- The marks of a pattern; `bracketsPlain` tells whether an opening bracket stands for itself. -/
def marks? (bracketsPlain : Bool) (text : List Char) : Option (List Mark) :=
  match text with
  | [] => some []
  | c :: rest =>
    if c = '\\' then
      match rest with
      | [] => none
      | d :: more => (marks? bracketsPlain more).map (.char d true :: ·)
    else if c = '[' ∧ bracketsPlain = false then
      match bracket? rest with
      | none => none
      | some .unclosed => (marks? true rest).map (.char '[' false :: ·)
      | some (.set octets after _) => (marks? bracketsPlain after).map (.set octets :: ·)
    else (marks? bracketsPlain rest).map (plainMark c :: ·)
termination_by text.length
decreasing_by all_goals simp_all <;> omega

/-! ## Globs -/

/-- One octet but a slash. -/
def inPart : OctetSet := .except slash

/-- Any number of octets but slashes. -/
def withinPart : Glob := .many inPart

/-- Any number of whole parts at the beginning of a path, or one slash. -/
def leadingParts : Glob :=
  .either (.either .nothing (.octets [slash])) (.seq (.many .all) (.octets [slash]))

/-- A slash and whatever follows it. -/
def trailingParts : Glob := .seq (.octets [slash]) (.many .all)

/-- A slash, or two slashes with whatever lies between them. -/
def innerParts : Glob :=
  .either (.octets [slash]) (.seq (.octets [slash]) (.seq (.many .all) (.octets [slash])))

/-- A part of a pattern. -/
structure Part where
  glob : Glob
  /-- The number of elements that the part adds to its branch. -/
  elements : Nat
  /-- The number of levels that its elements nest. -/
  depth : Nat
  deriving DecidableEq, Repr

namespace Part

/-- A character that stands for itself. -/
def char (c : Char) : Part :=
  let bytes := String.utf8EncodeChar c
  ⟨.octets bytes, bytes.length, 0⟩

/-- A `?`. -/
def any : Part := ⟨.one inPart, 1, 1⟩

/-- A `*`. -/
def star : Part := ⟨withinPart, 1, 2⟩

/-- A `**` that stands for `*`. -/
def stars : Part := ⟨withinPart, 2, 2⟩

/-- A set. -/
def set (octets : OctetSet) : Part := ⟨.one octets, 1, if octets.ranges.length ≤ 1 then 1 else 2⟩

/-- A `**` at the beginning of a branch. -/
def leading : Part := ⟨leadingParts, 1, 4⟩

/-- A `**` at the end of a branch, with the slash before it. -/
def trailing : Part := ⟨trailingParts, 2, 1⟩

/-- A `**` with the slashes around it. -/
def inner : Part := ⟨innerParts, 1, 4⟩

/-- Some parts one after the other. -/
def chain (parts : List Part) : Part :=
  ⟨.chain (parts.map (·.glob)), (parts.map (·.elements)).foldl (· + ·) 0,
    (parts.map (·.depth)).foldl max 0⟩

/-- The levels of a part that is a branch of its own. -/
def branchDepth (part : Part) : Nat := part.depth + if part.elements ≤ 1 then 0 else 1

/-- A group of branches, of which the empty ones do not count. -/
def group (branches : List Part) : Part :=
  match branches.filter (·.elements != 0) with
  | [] => ⟨.nothing, 0, 0⟩
  | [branch] => ⟨branch.glob, 1, 1 + branch.branchDepth⟩
  | first :: others =>
    ⟨others.foldl (fun g branch => .either g branch.glob) first.glob, 1,
      2 + ((first :: others).map branchDepth).foldl max 0⟩

end Part

/-- A piece of a branch: a `**` at its beginning is kept apart. -/
inductive Piece where
  | leading
  | part (p : Part)
  deriving DecidableEq, Repr

/-- The part that a piece is. -/
def Piece.toPart : Piece → Part
  | .leading => .leading
  | .part p => p

/-- A group of branches: the finished ones, and the pieces of the one being read, the last one first. -/
structure Group where
  finished : List Part
  pieces : List Piece
  deriving DecidableEq, Repr

namespace Group

/-- A group before its first piece. -/
def empty : Group := ⟨[], []⟩

/-- The branch being read. -/
def branch (group : Group) : Part := .chain (group.pieces.reverse.map Piece.toPart)

/-- The group with a part added to its branch. -/
def push (group : Group) (part : Part) : Group := { group with pieces := .part part :: group.pieces }

/-- The group with a new branch begun. -/
def nextBranch (group : Group) : Group := ⟨group.finished ++ [group.branch], []⟩

/-- The part that a finished group is. -/
def toPart (group : Group) : Part := .group group.nextBranch.finished

/-- The group with the slash at the end of its branch replaced; a `**` there takes in all that could come
in its place. -/
def replaceLast (group : Group) (part : Part) : Group :=
  match group.pieces with
  | .leading :: _ => group
  | _ :: others => { group with pieces := .part part :: others }
  | [] => group.push part

end Group

/-- What has been read: the innermost group, the groups around it from the inside, and whether a `**` that
follows would begin a part of the path. -/
structure Reading where
  group : Group
  outer : List Group
  atPart : Bool
  deriving DecidableEq, Repr

namespace Reading

/-- Before the first mark. -/
def start : Reading := ⟨.empty, [], false⟩

/-- Adds a part to the branch being read. -/
def push (reading : Reading) (part : Part) : Reading :=
  { reading with group := reading.group.push part, atPart := false }

/-- Puts a part in place of the slash read last. -/
def replaceLast (reading : Reading) (part : Part) (atPart : Bool) : Reading :=
  { reading with group := reading.group.replaceLast part, atPart }

/-- Begins the branch being read with a `**`. -/
def lead (reading : Reading) : Reading :=
  { reading with group := { reading.group with pieces := [.leading] }, atPart := true }

/-- Adds a character that stands for itself.  In a group a comma or an opening brace, too, counts as the
beginning of a part. -/
def pushChar (reading : Reading) (c : Char) : Reading :=
  { reading.push (.char c) with
    atPart := c == '/' || (!reading.outer.isEmpty && (c == ',' || c == '\x7b')) }

/-- One mark that is no star. -/
def step? (reading : Reading) : Mark → Option Reading
  | .char c _ => some (reading.pushChar c)
  | .any => some (reading.push .any)
  | .star => some (reading.push .star)
  | .set octets => some (reading.push (.set octets))
  | .opening => some ⟨.empty, reading.group :: reading.outer, false⟩
  | .closing =>
    match reading.outer with
    | [] => none
    | group :: outer => some ⟨group.push reading.group.toPart, outer, false⟩
  | .comma =>
    if reading.outer.isEmpty then some (reading.pushChar ',')
    else some { reading with group := reading.group.nextBranch, atPart := false }

/-- A pattern that has been read to its end.  A `**` alone describes everything. -/
def finish? (reading : Reading) : Option Part :=
  if !reading.outer.isEmpty then none
  else if reading.group.pieces = [.leading] then some ⟨.many .all, 1, 1⟩
  else some reading.group.branch

end Reading

/-- Whether a mark ends a branch of a group. -/
def endsBranch (mark : Mark) : Bool := mark == .comma || mark == .closing

/-- Reads the marks of a pattern. -/
def readMarks? (reading : Reading) : List Mark → Option Part
  | [] => reading.finish?
  | .star :: .star :: [] =>
    if reading.group.pieces.isEmpty then reading.lead.finish?
    else if reading.atPart then (reading.replaceLast .trailing false).finish?
    else (reading.push .stars).finish?
  | .star :: .star :: next :: rest =>
    if next = .char '/' false then
      if reading.group.pieces.isEmpty then readMarks? reading.lead rest
      else if reading.atPart then readMarks? (reading.replaceLast .inner true) rest
      else readMarks? (reading.push .stars) (next :: rest)
    else if reading.atPart && !reading.outer.isEmpty && endsBranch next then
      readMarks? (reading.replaceLast .trailing false) (next :: rest)
    else readMarks? (reading.push .stars) (next :: rest)
  | mark :: rest =>
    match reading.step? mark with
    | some next => readMarks? next rest
    | none => none

/-- A pattern as one part, if the pattern has a meaning. -/
def read? (pattern : List Char) : Option Part :=
  (marks? false pattern).bind (readMarks? .start)

end LibraryPaths.Pattern
