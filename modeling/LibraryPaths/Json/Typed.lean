import LibraryPaths.Json.Skip

/-!
# Reading values of a known type

Readers of an integer, a string, an optional string and a list of strings.  A value of another type is
read far enough to be named in the fault: words, numbers and strings as a whole, of a list or an object
nothing.  A fault inside such a value is reported as it would be anywhere else.
-/

set_option autoImplicit false

namespace LibraryPaths.Json

/-- The shape of a number. -/
def Number.shape : Number → Shape
  | .unsigned value => .unsigned value
  | .negative value => .negative value
  | .floating value => .floating (Decimal.floatText value)

/-- The stop of a value that is not of the expected type. -/
def mistyped (expected : String) (text : List Char) : Stop :=
  let wrong (shape : Shape) (rest : List Char) : Stop := ⟨.wrongType shape expected, rest, 0⟩
  let word (letters : String) (shape : Shape) (rest : List Char) : Stop :=
    match skipWord letters.toList rest with
    | .ok after => wrong shape after.1
    | .error stop => stop
  match text with
  | [] => .before .expectedValue text
  | c :: rest =>
    if c = 'n' then word "ull" .null rest
    else if c = 't' then word "rue" (.boolean true) rest
    else if c = 'f' then word "alse" (.boolean false) rest
    else if c = '"' then
      match readString rest with
      | .ok (value, after) => wrong (.string (String.ofList value)) after.1
      | .error stop => stop
    else if c = '[' then wrong .sequence text
    else if c = '\x7b' then wrong .map text
    else if startsNumber c then
      match readNumber text with
      | .ok (number, after) => wrong number.shape after.1
      | .error stop => stop
    else .before .expectedValue text

theorem length_cons_le_of_skipBlank_of_lt {text rest more : List Char} {d : Char}
    (h : skipBlank rest = d :: more) (hr : rest.length < text.length) :
    (d :: more).length ≤ text.length :=
  Nat.le_trans (length_cons_le_of_skipBlank h) (Nat.le_of_lt hr)

/-- Reads an integer of 64 bits without a sign. -/
def readUnsigned (text : List Char) : Except Stop (Nat × Shorter text) :=
  match h : skipBlank text with
  | [] => .error (.atEnd .endInValue)
  | c :: rest =>
    if startsNumber c then
      match readNumber (c :: rest) with
      | .error stop => .error stop
      | .ok (.unsigned value, after) => .ok (value, after.widen (length_cons_le_of_skipBlank h))
      | .ok (.negative value, after) => .error ⟨.wrongValue (.negative value) "u64", after.1, 0⟩
      | .ok (.floating value, after) =>
        .error ⟨.wrongType (Number.floating value).shape "u64", after.1, 0⟩
    else .error (mistyped "u64" (c :: rest))

/-- Reads a string. -/
def readText (expected : String) (text : List Char) : Except Stop (String × Shorter text) :=
  match h : skipBlank text with
  | [] => .error (.atEnd .endInValue)
  | c :: rest =>
    have hr := length_lt_of_skipBlank h
    if c = '"' then
      match readString rest with
      | .error stop => .error stop
      | .ok (value, after) => .ok (String.ofList value, after.widen (length_le_of_lt hr))
    else .error (mistyped expected (c :: rest))

/-- Reads a string, or a null in its place. -/
def readOptionalText (expected : String) (text : List Char) :
    Except Stop (Option String × Shorter text) :=
  match h : skipBlank text with
  | 'n' :: rest =>
    have hr := length_lt_of_skipBlank h
    match skipWord "ull".toList rest with
    | .error stop => .error stop
    | .ok after => .ok (none, after.tighten hr)
  | _ => (readText expected text).map fun (value, after) => (some value, after)

/-- What stands before the next item of a list that is being read. -/
inductive ItemStart (text : List Char) where
  /-- The list ends. -/
  | closed (rest : Shorter text)
  /-- An item follows. -/
  | item (rest : NoLonger text)

/-- Goes to the next item of a list, or behind its end. -/
def nextItem (isFirst : Bool) (text : List Char) : Except Stop (ItemStart text) :=
  match h : skipBlank text with
  | [] => .error (.atEnd .endInList)
  | c :: rest =>
    have hr := length_lt_of_skipBlank h
    if c = ']' then .ok (.closed ⟨rest, hr⟩)
    else if isFirst then .ok (.item ⟨c :: rest, length_cons_le_of_skipBlank h⟩)
    else if c = ',' then
      match h' : skipBlank rest with
      | [] => .error (.atEnd .endInValue)
      | d :: more =>
        if d = ']' then .error (.before .trailingComma (d :: more))
        else .ok (.item ⟨d :: more, length_cons_le_of_skipBlank_of_lt h' hr⟩)
    else .error (.before .expectedListEnd (c :: rest))

/-- Reads the items of a list of strings, up to and with its closing bracket. -/
def readTextItems (isFirst : Bool) (text : List Char) :
    Except Stop (List String × Shorter text) :=
  match nextItem isFirst text with
  | .error stop => .error stop
  | .ok (.closed rest) => .ok ([], rest)
  | .ok (.item start) =>
    match readText "a string" start.1 with
    | .error stop => .error stop
    | .ok (value, after) =>
      have ha : after.1.length < text.length := by have := after.2; have := start.2; omega
      match readTextItems false after.1 with
      | .error stop => .error stop
      | .ok (values, rest) => .ok (value :: values, rest.widen (Nat.le_of_lt ha))
termination_by text.length

/-- Reads a list of strings. -/
def readTexts (text : List Char) : Except Stop (List String × Shorter text) :=
  match h : skipBlank text with
  | [] => .error (.atEnd .endInValue)
  | c :: rest =>
    have hr := length_lt_of_skipBlank h
    if c = '[' then
      match readTextItems true rest with
      | .error stop => .error stop
      | .ok (values, after) => .ok (values, after.widen (length_le_of_lt hr))
    else .error (mistyped "a sequence" (c :: rest))

end LibraryPaths.Json
