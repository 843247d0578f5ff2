import LibraryPaths.Text.Quoted
import LibraryPaths.Text.Utf8

/-!
# Faults in JSON text

A fault says what is wrong; a `Stop` adds where reading stopped.  The place is kept as the unread rest of
the text and the number of its octets that count as looked at: a syntax fault counts the octet that is out
of place, the end of the text and a value of the wrong type count nothing more.

`Stop.report` turns the place into a line and a column.  Lines count from one, a column is the number of
octets of the line that have been looked at.
-/

set_option autoImplicit false

namespace LibraryPaths.Json

/-- What kind of value was met. -/
inductive Shape where
  | null
  | boolean (value : Bool)
  | unsigned (value : Nat)
  /-- A negative integer, by its absolute value. -/
  | negative (value : Nat)
  /-- A number that is no integer of 64 bits, by its text. -/
  | floating (text : String)
  | string (text : String)
  | sequence
  | map
  deriving DecidableEq, Repr

/-- What is wrong with a text. -/
inductive Fault where
  | endInValue
  | endInList
  | endInObject
  | endInString
  | expectedValue
  | expectedWord
  | expectedColon
  | expectedListEnd
  | expectedObjectEnd
  | keyNotString
  | trailingComma
  | trailingCharacters
  | invalidNumber
  | numberOutOfRange
  | invalidEscape
  | loneSurrogate
  | unfinishedSurrogate
  | controlCharacter
  | wrongType (found : Shape) (expected : String)
  | wrongValue (found : Shape) (expected : String)
  | repeatedKey (key : String)
  deriving DecidableEq, Repr

/-- A fault, the unread text, and how many octets of it count as looked at. -/
structure Stop where
  fault : Fault
  unread : List Char
  counted : Nat
  deriving DecidableEq, Repr

/-- A fault at the end of the text. -/
def Stop.atEnd (fault : Fault) : Stop := ⟨fault, [], 0⟩

/-- A fault at the next character, whose first octet counts; at the end of the text there is none. -/
def Stop.before (fault : Fault) (unread : List Char) : Stop := ⟨fault, unread, 1⟩

/-- The words for a kind of value. -/
def Shape.message : Shape → String
  | .null => "null"
  | .boolean true => "boolean \x60true\x60"
  | .boolean false => "boolean \x60false\x60"
  | .unsigned value => "integer \x60" ++ toString value ++ "\x60"
  | .negative value => "integer \x60-" ++ toString value ++ "\x60"
  | .floating text => "floating point \x60" ++ text ++ "\x60"
  | .string text => "string " ++ quoted text
  | .sequence => "sequence"
  | .map => "map"

/-- The wording of a fault. -/
def Fault.message : Fault → String
  | .endInValue => "EOF while parsing a value"
  | .endInList => "EOF while parsing a list"
  | .endInObject => "EOF while parsing an object"
  | .endInString => "EOF while parsing a string"
  | .expectedValue => "expected value"
  | .expectedWord => "expected ident"
  | .expectedColon => "expected \x60:\x60"
  | .expectedListEnd => "expected \x60,\x60 or \x60]\x60"
  | .expectedObjectEnd => "expected \x60,\x60 or \x60\x7d\x60"
  | .keyNotString => "key must be a string"
  | .trailingComma => "trailing comma"
  | .trailingCharacters => "trailing characters"
  | .invalidNumber => "invalid number"
  | .numberOutOfRange => "number out of range"
  | .invalidEscape => "invalid escape"
  | .loneSurrogate => "lone leading surrogate in hex escape"
  | .unfinishedSurrogate => "unexpected end of hex escape"
  | .controlCharacter => "control character (\\u0000-\\u001F) found while parsing a string"
  | .wrongType found expected => "invalid type: " ++ found.message ++ ", expected " ++ expected
  | .wrongValue found expected => "invalid value: " ++ found.message ++ ", expected " ++ expected
  | .repeatedKey key => "duplicate field \x60" ++ key ++ "\x60"

/-- A fault with its line and column. -/
structure Report where
  fault : Fault
  line : Nat
  column : Nat
  deriving DecidableEq, Repr

/-- The wording of a report. -/
def Report.message (report : Report) : String :=
  report.fault.message ++ " at line " ++ toString report.line ++ " column " ++ toString report.column

/-- The line and column reached after some octets. -/
def reached (octets : List UInt8) : Nat × Nat :=
  (octets.countP (· == 10) + 1, (octets.reverse.takeWhile (· != 10)).length)

/-- The report of a stop in a text. -/
def Stop.report (text : List Char) (stop : Stop) : Report :=
  let octets := Utf8.encode text
  let read := octets.length - (Utf8.encode stop.unread).length + stop.counted
  let (line, column) := reached (octets.take read)
  ⟨stop.fault, line, column⟩

end LibraryPaths.Json
