import LibraryPaths.Ignore.Pattern
import LibraryPaths.Text.Blank
import LibraryPaths.Text.Lines

/-!
# Rules of ignore files

Each line of an ignore file is a rule: a pattern that hides paths, or shows them again if it begins with
`!`.  A pattern with a slash before its end is matched against the whole path, any other one against the
last part of it.  A pattern that ends with a slash concerns directories only.  Lines that begin with `#`,
empty lines and patterns without a meaning are left out; white space at the end of a line does not count
unless a backslash stands before a single space there.  If one pattern nests too deep, the file has no rules.

Of the rules that apply to a path the last one counts.
-/

set_option autoImplicit false

namespace LibraryPaths

/-- What a rule does to the paths it applies to. -/
inductive Verdict where
  | hide
  | «show»
  deriving DecidableEq, Repr

/-- A rule of an ignore file. -/
structure IgnoreRule where
  glob : Glob
  verdict : Verdict
  directoriesOnly : Bool
  /-- The number of levels that the pattern nests. -/
  depth : Nat
  deriving DecidableEq, Repr

namespace IgnoreRule

/-- A text without white space at its end. -/
def trimEnd (text : List Char) : List Char :=
  (text.reverse.dropWhile isBlank).reverse

/-- The part of a line that counts. -/
def trimLine (line : List Char) : List Char :=
  if [' ', '\\'].isPrefixOf line.reverse then line else trimEnd line

/-- What stands at the beginning of a line: the verdict, whether the pattern is bound to the directory of
the ignore file, and the pattern. -/
def opening (line : List Char) : Verdict × Bool × List Char :=
  match line with
  | '\\' :: '!' :: rest => (.hide, false, '!' :: rest)
  | '\\' :: '#' :: rest => (.hide, false, '#' :: rest)
  | '!' :: '/' :: rest => (.show, true, rest)
  | '!' :: rest => (.show, false, rest)
  | '/' :: rest => (.hide, true, rest)
  | rest => (.hide, false, rest)

/-- A pattern without the slash at its end, which a backslash may precede; and whether there was one. -/
def ending (pattern : List Char) : List Char × Bool :=
  match pattern.reverse with
  | '/' :: '\\' :: rest => (rest.reverse, true)
  | '/' :: rest => (rest.reverse, true)
  | _ => (pattern, false)

/-- The pattern matched against a path.  One without a slash may lie at any depth; one that ends with a
`**` part describes what lies below the directory and not the directory. -/
def wholePattern (isBound : Bool) (pattern : List Char) : List Char :=
  let placed :=
    if isBound || pattern.contains '/' || pattern == ['*', '*'] then pattern
    else '*' :: '*' :: '/' :: pattern
  if ['*', '*', '/'].isPrefixOf placed.reverse then placed ++ ['/', '*'] else placed

/-- The rule of a line that is no comment. -/
def ofPattern? (line : List Char) : Option IgnoreRule :=
  let (verdict, isBound, text) := opening line
  let (pattern, directoriesOnly) := ending text
  (Pattern.read? (wholePattern isBound pattern)).map fun part =>
    ⟨part.glob, verdict, directoriesOnly, 1 + part.depth⟩

/-- The rule of a line, if the line holds one. -/
def ofLine? (line : List Char) : Option IgnoreRule :=
  if line.head? = some '#' then none
  else
    let line := trimLine line
    if line = [] then none else ofPattern? line

/-- Whether a rule applies to a path. -/
def applies (rule : IgnoreRule) (path : List UInt8) (isDirectory : Bool) : Bool :=
  (isDirectory || !rule.directoriesOnly) && rule.glob.describes path

/-- The verdict of some rules on a path: that of the last rule that applies. -/
def verdict? (rules : List IgnoreRule) (path : List UInt8) (isDirectory : Bool) : Option Verdict :=
  (rules.reverse.find? (·.applies path isDirectory)).map (·.verdict)

/-- The lines of an ignore file up to the first one that is not text. -/
def fileLines (content : List UInt8) : List (List Char) :=
  let pieces := (content.splitOn 10).map Utf8.decode?
  let readable := (pieces.takeWhile Option.isSome).filterMap id
  linesOfPieces (if readable.length = pieces.length then readable else readable ++ [[]])

/-- The greatest number of levels that a pattern may nest. -/
def maxDepth : Nat := 250

/-- The rules of some lines; none if one of their patterns nests too deep. -/
def ofLines (lines : List (List Char)) : List IgnoreRule :=
  let rules := lines.filterMap ofLine?
  if rules.all fun rule => rule.depth ≤ maxDepth then rules else []

/-- The rules of an ignore file.  Byte order marks at its beginning do not count. -/
def ofFile (content : List UInt8) : List IgnoreRule :=
  match fileLines content with
  | [] => []
  | first :: rest => ofLines (first.dropWhile (· == '\uFEFF') :: rest)

end IgnoreRule

end LibraryPaths
