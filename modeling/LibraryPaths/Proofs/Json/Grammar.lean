import LibraryPaths.Json.Skip

/-!
# The grammar of JSON texts

What a JSON text is can be said without a reader.  A value is a word, a number, a string, a list or an
object; white space may stand around the items of a list and around the names and values of an object
(`IsValue`).  A string is written in pieces (`Piece`), and what it spells is defined through the 16-bit units
that its pieces stand for (`Spells`): an escape of four digits is one unit, so a character beyond the first
65536 takes two of them, and a string with half of such a pair is a value but spells no text.
-/

set_option autoImplicit false

namespace LibraryPaths.Json

/-- White space, possibly none. -/
abbrev Blank := { text : List Char // ∀ c ∈ text, isJsonBlank c = true }

/-- No white space. -/
def noBlank : Blank := ⟨[], fun _ hc => by cases hc⟩

theorem noBlank_append (text : List Char) : noBlank.1 ++ text = text := rfl

theorem skipBlank_append (blank : Blank) (text : List Char) : skipBlank (blank.1 ++ text) = skipBlank text :=
  List.dropWhile_append_of_pos blank.2

theorem skipBlank_cons {c : Char} (hc : isJsonBlank c = false) (text : List Char) :
    skipBlank (c :: text) = c :: text :=
  List.dropWhile_cons_of_neg (by simp [hc])

theorem skipBlank_blank_cons {c : Char} (blank : Blank) (hc : isJsonBlank c = false) (text : List Char) :
    skipBlank (blank.1 ++ c :: text) = c :: text := by
  rw [skipBlank_append, skipBlank_cons hc]

/-! ## Strings -/

/-- The 16-bit units of a character. -/
def utf16 (c : Char) : List Nat :=
  if c.toNat < 0x10000 then [c.toNat]
  else [0xD800 + (c.toNat - 0x10000) / 0x400, 0xDC00 + (c.toNat - 0x10000) % 0x400]

/-- A piece of a string as it is written. -/
inductive Piece where
  /-- A character that stands for itself. -/
  | plain (c : Char) (hc : c ≠ '"' ∧ c ≠ '\\' ∧ 0x20 ≤ c.toNat)
  /-- A backslash and a letter. -/
  | short (letter c : Char) (hc : shortEscape? letter = some c)
  /-- A backslash, a `u` and four hexadecimal digits. -/
  | code (first second third fourth : Char) (n : Nat) (hn : hexNumber? first second third fourth = some n)

namespace Piece

/-- How a piece is written. -/
def text : Piece → List Char
  | .plain c _ => [c]
  | .short letter _ _ => ['\\', letter]
  | .code first second third fourth _ _ => ['\\', 'u', first, second, third, fourth]

/-- The 16-bit units that a piece stands for. -/
def units : Piece → List Nat
  | .plain c _ => utf16 c
  | .short _ c _ => utf16 c
  | .code _ _ _ _ n _ => [n]

end Piece

/-- The pieces of a string, one behind the other. -/
def written (pieces : List Piece) : List Char := pieces.flatMap Piece.text

/-- A string as it is written. -/
def inQuotes (pieces : List Piece) : List Char := '"' :: (written pieces ++ ['"'])

/-- The pieces of a string spell a text: they stand for its 16-bit units. -/
def Spells (pieces : List Piece) (text : List Char) : Prop :=
  pieces.flatMap Piece.units = text.flatMap utf16

instance (pieces : List Piece) (text : List Char) : Decidable (Spells pieces text) :=
  inferInstanceAs (Decidable (_ = _))

/-! ## Numbers -/

/-- One digit or more. -/
def Digits (text : List Char) : Prop := text ≠ [] ∧ ∀ c ∈ text, c.isDigit = true

/-- Digits that begin with a zero only if there are no others. -/
def Whole (text : List Char) : Prop := Digits text ∧ (text.head? = some '0' → text = ['0'])

/-- A point and digits, or nothing. -/
inductive Fraction : List Char → Prop
  | none : Fraction []
  | point {digits : List Char} (hdigits : Digits digits) : Fraction ('.' :: digits)

/-- An exponent, or nothing. -/
inductive Exponent : List Char → Prop
  | none : Exponent []
  | power {mark : Char} {sign digits : List Char} (hmark : mark = 'e' ∨ mark = 'E')
      (hsign : sign = [] ∨ sign = ['+'] ∨ sign = ['-']) (hdigits : Digits digits) :
      Exponent (mark :: (sign ++ digits))

/-- A number. -/
inductive IsNumber : List Char → Prop
  | mk {sign whole fraction exponent : List Char} (hsign : sign = [] ∨ sign = ['-'])
      (hwhole : Whole whole) (hfraction : Fraction fraction) (hexponent : Exponent exponent) :
      IsNumber (sign ++ (whole ++ (fraction ++ exponent)))

/-! ## Values -/

/-- A value with white space around it. -/
structure Padded where
  before : Blank
  value : List Char
  after : Blank

/-- How a value is written with the white space around it. -/
def Padded.text (item : Padded) : List Char := item.before.1 ++ (item.value ++ item.after.1)

/-- A member of an object: its name and its value, with white space around both. -/
structure Member where
  before : Blank
  name : List Piece
  between : Blank
  value : Padded

/-- How a member of an object is written. -/
def Member.text (member : Member) : List Char :=
  member.before.1 ++ (inQuotes member.name ++ (member.between.1 ++ ':' :: member.value.text))

/-- What stands between two brackets: parts with commas between them, or white space. -/
def enclosed (gap : Blank) : List (List Char) → List Char
  | [] => gap.1
  | first :: others => first ++ others.flatMap (',' :: ·)

/-- The text of one value. -/
inductive IsValue : List Char → Prop
  | word {text : List Char} (hword : text ∈ ["null".toList, "true".toList, "false".toList]) : IsValue text
  | number {text : List Char} (hnumber : IsNumber text) : IsValue text
  | string (pieces : List Piece) : IsValue (inQuotes pieces)
  | list (gap : Blank) {items : List Padded} (hitems : ∀ item ∈ items, IsValue item.value) :
      IsValue ('[' :: (enclosed gap (items.map Padded.text) ++ [']']))
  | object (gap : Blank) {members : List Member}
      (hmembers : ∀ member ∈ members, IsValue member.value.value) :
      IsValue ('\x7b' :: (enclosed gap (members.map Member.text) ++ ['\x7d']))

end LibraryPaths.Json
