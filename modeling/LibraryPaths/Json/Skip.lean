import LibraryPaths.Json.Number

/-!
# Skipping values

A value nobody asks for is only checked to be well-formed.  The lists and objects around the place of
reading are kept on a stack, so values may be nested to any depth; numbers may be of any size, and the
surrogates in strings need not form pairs.

The functions follow the places inside a value, and each of them either shortens the text or goes on to a
place of lower rank: before a value (`skipValue`), behind one (`skipRest`), and
before an item of a list or a member of an object (`skipItem`).
-/

set_option autoImplicit false

namespace LibraryPaths.Json

/-- A list or an object around the place of reading. -/
inductive Frame where
  | list
  | object
  deriving DecidableEq, Repr

namespace Frame

/-- The bracket that closes. -/
def closing : Frame → Char
  | .list => ']'
  | .object => '\x7d'

/-- The fault of a text that ends inside. -/
def unfinished : Frame → Fault
  | .list => .endInList
  | .object => .endInObject

/-- The fault of an item that is followed by neither a comma nor the closing bracket. -/
def notSeparated : Frame → Fault
  | .list => .expectedListEnd
  | .object => .expectedObjectEnd

end Frame

theorem length_lt_of_skipBlank {text rest : List Char} {c : Char} (h : skipBlank text = c :: rest) :
    rest.length < text.length := by
  have := length_skipBlank_le text
  rw [h] at this
  simp at this
  omega

theorem length_cons_le_of_skipBlank {text rest : List Char} {c : Char}
    (h : skipBlank text = c :: rest) : (c :: rest).length ≤ text.length := by
  rw [← h]
  exact length_skipBlank_le text

/-- Skips a key and the colon behind it. -/
def skipKey (text : List Char) : Except Stop (Shorter text) :=
  match h : skipBlank text with
  | [] => .error (.atEnd .endInObject)
  | c :: rest =>
    have hr := length_lt_of_skipBlank h
    if c = '"' then
      match skipString rest with
      | .error stop => .error stop
      | .ok after =>
        match h' : skipBlank after.1 with
        | [] => .error (.atEnd .endInObject)
        | ':' :: value =>
          .ok ⟨value, by have := length_lt_of_skipBlank h'; have := after.2; omega⟩
        | other => .error (.before .expectedColon other)
    else .error (.before .keyNotString (c :: rest))

/-- Skips a word, a number or a string. -/
def skipScalar (text : List Char) : Except Stop (Shorter text) :=
  match text with
  | [] => .error (.atEnd .endInValue)
  | c :: rest =>
    if c = 'n' then (skipWord "ull".toList rest).map (·.behind c)
    else if c = 't' then (skipWord "rue".toList rest).map (·.behind c)
    else if c = 'f' then (skipWord "alse".toList rest).map (·.behind c)
    else if c = '"' then (skipString rest).map (·.widen (length_le_cons c rest))
    else if startsNumber c then
      match h : readNumeral .invalidNumber (c :: rest) with
      | .error stop => .error stop
      | .ok (_, after) => .ok ⟨after, length_lt_of_readNumeral h⟩
    else .error (.before .expectedValue (c :: rest))

mutual

/-- Skips a value and the rest of the lists and objects around it. -/
def skipValue (stack : List Frame) (text : List Char) : Except Stop (Shorter text) :=
  match h : skipBlank text with
  | [] => .error (.atEnd .endInValue)
  | c :: rest =>
    have hr := length_lt_of_skipBlank h
    if c = '[' then (skipFirst .list stack rest).map (·.widen (length_le_of_lt hr))
    else if c = '\x7b' then (skipFirst .object stack rest).map (·.widen (length_le_of_lt hr))
    else
      match skipScalar (c :: rest) with
      | .error stop => .error stop
      | .ok after =>
        have ha : after.1.length < text.length := by have := after.2; simp at this; omega
        (skipRest stack after.1).map (·.tighten ha)
termination_by 3 * text.length

/-- Skips what follows an opening bracket. -/
def skipFirst (frame : Frame) (stack : List Frame) (text : List Char) :
    Except Stop (Shorter text) :=
  match h : skipBlank text with
  | [] => .error (.atEnd frame.unfinished)
  | c :: rest =>
    have hr := length_lt_of_skipBlank h
    if c = frame.closing then (skipRest stack rest).map (·.tighten hr)
    else (skipItem frame stack (c :: rest)).map (·.widen (length_cons_le_of_skipBlank h))
termination_by 3 * text.length + 2

/-- Skips what follows a value. -/
def skipRest (stack : List Frame) (text : List Char) : Except Stop (NoLonger text) :=
  match stack with
  | [] => .ok ⟨text, Nat.le_refl _⟩
  | frame :: outer =>
    match h : skipBlank text with
    | [] => .error (.atEnd frame.unfinished)
    | c :: rest =>
      have hr := length_lt_of_skipBlank h
      if c = ',' then (skipItem frame outer rest).map (·.relax hr)
      else if c = frame.closing then (skipRest outer rest).map (·.widen (length_le_of_lt hr))
      else .error (.before frame.notSeparated (c :: rest))
termination_by 3 * text.length

/-- Skips an item of a list or a member of an object, and what follows it. -/
def skipItem (frame : Frame) (outer : List Frame) (text : List Char) :
    Except Stop (Shorter text) :=
  match frame with
  | .list => skipValue (.list :: outer) text
  | .object =>
    match skipKey text with
    | .error stop => .error stop
    | .ok value =>
      have := value.2
      (skipValue (.object :: outer) value.1).map (·.widen value.length_le)
termination_by 3 * text.length + 1

end

end LibraryPaths.Json
