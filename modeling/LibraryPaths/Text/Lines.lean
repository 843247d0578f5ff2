/-!
# Lines of a text

A line ends with a line feed; a carriage return directly before the line feed belongs to the end of the
line, one elsewhere is an ordinary character.  A text that ends with a line feed has no empty last line.
-/

set_option autoImplicit false

namespace LibraryPaths

/-- Removes one carriage return from the end of a line. -/
def dropReturn (line : List Char) : List Char :=
  if line.getLast? = some '\r' then line.dropLast else line

/-- The lines among the pieces between line feeds: the last piece is a line only if it is not empty. -/
def linesOfPieces : List (List Char) → List (List Char)
  | [] => []
  | [last] => if last = [] then [] else [last]
  | piece :: pieces => dropReturn piece :: linesOfPieces pieces

/-- The lines of a text given by its characters. -/
def charLines (text : List Char) : List (List Char) :=
  linesOfPieces (text.splitOn '\n')

/-- The lines of a text. -/
def textLines (text : String) : List String :=
  (charLines text.toList).map String.ofList

end LibraryPaths
