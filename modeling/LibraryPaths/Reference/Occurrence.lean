import LibraryPaths.Text.Blank
import LibraryPaths.Text.Word

/-!
# Module references in text

A reference is the word `require`, or the text `---@module`, followed by a module name between two equal
quotes.  White space may stand between the parts, and after `require` one opening parenthesis.  A module
name begins with a word character and goes on with word characters, `.`, `/` and `-`.

At a given place there is at most one way to read a reference, so `occurrence?` needs no backtracking.
References do not overlap: `namesFrom` takes the leftmost one, jumps behind its closing quote and goes on
from there.
-/

set_option autoImplicit false

namespace LibraryPaths.Reference

/-- The word that loads a module. -/
def loadWord : List Char := "require".toList

/-- The text that names the module of an annotation. -/
def annotation : List Char := "---@module".toList

/-- Whether a character may follow the first one of a module name. -/
def isNameChar (c : Char) : Bool :=
  isWordChar c || c == '.' || c == '/' || c == '-'

/-- What follows an opening parenthesis and white space, both of which may be missing. -/
def afterParenthesis (text : List Char) : List Char :=
  match text with
  | '(' :: rest => rest.dropWhile isBlank
  | _ => text

/-- What follows the part of a reference before the quoted name, if the text begins with such a part.
`before` is the character to the left: a load word does not begin inside a word. -/
def afterOpening? (before : Option Char) (text : List Char) : Option (List Char) :=
  if loadWord.isPrefixOf text && !before.any isWordChar then
    some (afterParenthesis ((text.drop loadWord.length).dropWhile isBlank))
  else if annotation.isPrefixOf text then
    some ((text.drop annotation.length).dropWhile isBlank)
  else none

/-- A module name between two equal quotes at the beginning of a text, and what follows it. -/
def quotedName? (text : List Char) : Option (List Char × List Char) :=
  match text with
  | quote :: first :: rest =>
    if (quote == '"' || quote == '\'') && isWordChar first then
      match rest.dropWhile isNameChar with
      | closing :: after =>
        if closing == quote then some (first :: rest.takeWhile isNameChar, after) else none
      | [] => none
    else none
  | _ => none

/-- A module reference: the name and the number of characters up to and with the closing quote. -/
structure Occurrence where
  name : List Char
  length : Nat
  deriving DecidableEq, Repr

/-- The reference that begins exactly here, if there is one. -/
def occurrence? (before : Option Char) (text : List Char) : Option Occurrence := do
  let rest ← afterOpening? before text
  let (name, after) ← quotedName? rest
  some ⟨name, text.length - after.length⟩

/-- The names of the references in a text, of which the first `skip` characters belong to a reference
already taken. -/
def namesFrom : Option Char → Nat → List Char → List (List Char)
  | _, _, [] => []
  | _, skip + 1, c :: rest => namesFrom (some c) skip rest
  | before, 0, c :: rest =>
    match occurrence? before (c :: rest) with
    | some found => found.name :: namesFrom (some c) (found.length - 1) rest
    | none => namesFrom (some c) 0 rest

/-- The module names referenced in a line, from left to right. -/
def names (line : String) : List String :=
  (namesFrom none 0 line.toList).map String.ofList

/-- The module names referenced in some lines, in the order of the lines. -/
def namesInLines (lines : List String) : List String :=
  lines.flatMap names

end LibraryPaths.Reference
