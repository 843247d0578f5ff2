import LibraryPaths.Json.Fault
import LibraryPaths.Text.Hex

/-!
# Strings, words and white space of JSON

Every reader here takes a text and gives what follows the part it read, together with the fact that this
is shorter; the readers of larger parts recur on that length.

Strings are read in two ways.  `readString` decodes escapes and refuses surrogates that do not form pairs;
`skipString`, for values nobody asks for, only looks for the closing quote.
-/

set_option autoImplicit false

namespace LibraryPaths.Json

/-- What follows a part of a text. -/
abbrev Shorter (text : List Char) := { rest : List Char // rest.length < text.length }

theorem Shorter.length_le {text : List Char} (rest : Shorter text) : rest.1.length ≤ text.length :=
  Nat.le_of_lt rest.2

theorem length_le_of_lt {text rest : List Char} (h : rest.length < text.length) :
    rest.length ≤ text.length :=
  Nat.le_of_lt h

theorem length_lt_trans {text rest more : List Char} (h : more.length < rest.length)
    (h' : rest.length < text.length) : more.length < text.length :=
  Nat.lt_trans h h'

theorem length_le_cons (c : Char) (text : List Char) : text.length ≤ (c :: text).length := by
  simp

/-- What follows a part of a text also follows a part of a longer one. -/
def Shorter.widen {text inner : List Char} (h : inner.length ≤ text.length) (rest : Shorter inner) :
    Shorter text :=
  ⟨rest.1, Nat.lt_of_lt_of_le rest.2 h⟩

/-- A text or what follows a part of it. -/
abbrev NoLonger (text : List Char) := { rest : List Char // rest.length ≤ text.length }

/-- What follows a part of a text, seen from a text that is longer. -/
def NoLonger.widen {text inner : List Char} (h : inner.length ≤ text.length)
    (rest : NoLonger inner) : NoLonger text :=
  ⟨rest.1, Nat.le_trans rest.2 h⟩

/-- What follows a part of a text, seen from one that is longer by something. -/
def NoLonger.tighten {text inner : List Char} (h : inner.length < text.length)
    (rest : NoLonger inner) : Shorter text :=
  ⟨rest.1, Nat.lt_of_le_of_lt rest.2 h⟩

/-- What follows a part of a text, seen from the text with one more character in front. -/
def NoLonger.behind {text : List Char} (c : Char) (rest : NoLonger text) : Shorter (c :: text) :=
  rest.tighten (by simp)

/-- What follows a part of a text, seen from one that is longer, no matter by how much. -/
def Shorter.relax {text inner : List Char} (h : inner.length < text.length) (rest : Shorter inner) :
    NoLonger text :=
  ⟨rest.1, by have := rest.2; omega⟩

/-- Whether a character may stand between the parts of a JSON text. -/
def isJsonBlank (c : Char) : Bool := c == ' ' || c == '\n' || c == '\t' || c == '\r'

/-- What follows white space. -/
def skipBlank (text : List Char) : List Char := text.dropWhile isJsonBlank

theorem length_skipBlank_le (text : List Char) : (skipBlank text).length ≤ text.length :=
  (List.dropWhile_suffix isJsonBlank).length_le

/-- Skips the rest of a word that has to stand here. -/
def skipWord (word : List Char) (text : List Char) : Except Stop (NoLonger text) :=
  match word, text with
  | [], text => .ok ⟨text, Nat.le_refl _⟩
  | _ :: _, [] => .error (.atEnd .endInValue)
  | expected :: word, c :: rest =>
    if c = expected then (skipWord word rest).map (·.widen (by simp))
    else .error (.before .expectedWord (c :: rest))

/-- The number written by four hexadecimal digits. -/
def hexNumber? (a b c d : Char) : Option Nat := do
  some ((((← hexValue? a) * 16 + (← hexValue? b)) * 16 + (← hexValue? c)) * 16 + (← hexValue? d))

/-- The fault of an escape without four hexadecimal digits: the four octets in their place count. -/
def badHex (text : List Char) : Stop :=
  if (Utf8.encode text).length < 4 then .atEnd .endInString else ⟨.invalidEscape, text, 4⟩

/-- Reads four hexadecimal digits. -/
def readHex (text : List Char) : Except Stop (Nat × Shorter text) :=
  match text with
  | a :: b :: c :: d :: rest =>
    match hexNumber? a b c d with
    | some n => .ok (n, ⟨rest, by simp; omega⟩)
    | none => .error (badHex (a :: b :: c :: d :: rest))
  | short => .error (badHex short)

/-- Whether a 16-bit number is the first half of a pair. -/
def isLeading (n : Nat) : Bool := decide (0xD800 ≤ n ∧ n ≤ 0xDBFF)

/-- Whether a 16-bit number is the second half of a pair. -/
def isTrailing (n : Nat) : Bool := decide (0xDC00 ≤ n ∧ n ≤ 0xDFFF)

/-- Reads the second half of a pair, whose escape has to follow at once. -/
def readTrailing (leading : Nat) (text : List Char) : Except Stop (Char × Shorter text) :=
  match text with
  | [] => .error (.atEnd .endInString)
  | ['\\'] => .error (.atEnd .endInString)
  | '\\' :: 'u' :: rest =>
    match readHex rest with
    | .error stop => .error stop
    | .ok (trailing, after) =>
      if isTrailing trailing then
        .ok (Char.ofNat (0x10000 + (leading - 0xD800) * 0x400 + (trailing - 0xDC00)),
          after.widen (by simp; omega))
      else .error ⟨.loneSurrogate, after.1, 0⟩
  | '\\' :: other => .error (.before .unfinishedSurrogate other)
  | other => .error (.before .unfinishedSurrogate other)

/-- Reads the digits of a `\u` escape, and those of a second one where they form a pair. -/
def readCodePoint (text : List Char) : Except Stop (Char × Shorter text) :=
  match readHex text with
  | .error stop => .error stop
  | .ok (n, after) =>
    if isTrailing n then .error ⟨.loneSurrogate, after.1, 0⟩
    else if isLeading n then
      match readTrailing n after.1 with
      | .error stop => .error stop
      | .ok (c, rest) => .ok (c, rest.widen (Nat.le_of_lt after.2))
    else .ok (Char.ofNat n, after)

/-- The character of an escape of one letter. -/
def shortEscape? : Char → Option Char
  | '"' => some '"'
  | '\\' => some '\\'
  | '/' => some '/'
  | 'b' => some '\x08'
  | 'f' => some '\x0c'
  | 'n' => some '\n'
  | 'r' => some '\r'
  | 't' => some '\t'
  | _ => none

/-- Reads what follows the backslash of an escape. -/
def readEscape (text : List Char) : Except Stop (Char × Shorter text) :=
  match text with
  | [] => .error (.atEnd .endInString)
  | c :: rest =>
    if c = 'u' then
      match readCodePoint rest with
      | .error stop => .error stop
      | .ok (d, after) => .ok (d, after.widen (by simp))
    else
      match shortEscape? c with
      | some d => .ok (d, ⟨rest, by simp⟩)
      | none => .error (.before .invalidEscape (c :: rest))

/-- Reads a string behind its opening quote. -/
def readString (text : List Char) : Except Stop (List Char × Shorter text) :=
  match text with
  | [] => .error (.atEnd .endInString)
  | c :: rest =>
    if c = '"' then .ok ([], ⟨rest, by simp⟩)
    else if c = '\\' then
      match readEscape rest with
      | .error stop => .error stop
      | .ok (d, after) =>
        have := after.2
        match readString after.1 with
        | .error stop => .error stop
        | .ok (ds, behind) => .ok (d :: ds, behind.widen (by simp; omega))
    else if c.toNat < 0x20 then .error (.before .controlCharacter (c :: rest))
    else
      match readString rest with
      | .error stop => .error stop
      | .ok (cs, behind) => .ok (c :: cs, behind.widen (by simp))
termination_by text.length
decreasing_by all_goals simp <;> omega

/-- Skips what follows the backslash of an escape. -/
def skipEscape (text : List Char) : Except Stop (Shorter text) :=
  match text with
  | [] => .error (.atEnd .endInString)
  | c :: rest =>
    if c = 'u' then
      match readHex rest with
      | .error stop => .error stop
      | .ok (_, after) => .ok (after.widen (by simp))
    else if (shortEscape? c).isSome then .ok ⟨rest, by simp⟩
    else .error (.before .invalidEscape (c :: rest))

/-- Skips a string behind its opening quote. -/
def skipString (text : List Char) : Except Stop (Shorter text) :=
  match text with
  | [] => .error (.atEnd .endInString)
  | c :: rest =>
    if c = '"' then .ok ⟨rest, by simp⟩
    else if c = '\\' then
      match skipEscape rest with
      | .error stop => .error stop
      | .ok after =>
        have := after.2
        match skipString after.1 with
        | .error stop => .error stop
        | .ok behind => .ok (behind.widen (by simp; omega))
    else if c.toNat < 0x20 then .error ⟨.controlCharacter, c :: rest, 0⟩
    else
      match skipString rest with
      | .error stop => .error stop
      | .ok behind => .ok (behind.widen (by simp))
termination_by text.length
decreasing_by all_goals simp <;> omega

end LibraryPaths.Json
