import LibraryPaths.Decimal.Text
import LibraryPaths.Json.Lexical

/-!
# Numbers of JSON

`readNumeral` takes a number apart: sign, whole digits, fraction digits, exponent.  `Numeral.value` gives
it a value.  Digits are collected into a 64-bit significand as long as they fit; a further digit before the
point multiplies by ten, one behind it is dropped.  A number without point and exponent whose digits fit
is an integer of 64 bits, if its sign allows; all others become doubles, by one product or quotient with a
power of ten.
-/

set_option autoImplicit false

namespace LibraryPaths.Json

/-- The parts of a number. -/
structure Numeral where
  isNegative : Bool
  whole : List Char
  fraction : Option (List Char)
  /-- Whether the exponent is positive, and its digits. -/
  exponent : Option (Bool × List Char)
  deriving DecidableEq, Repr

/-- The value of a number. -/
inductive Number where
  | unsigned (value : Nat)
  /-- A negative integer, by its absolute value. -/
  | negative (value : Nat)
  | floating (value : Float)

/-- The fault of a missing digit; at the end of the text it is the one given. -/
def missingDigit (atEnd : Fault) (text : List Char) : Stop :=
  if text = [] then .atEnd atEnd else .before .invalidNumber text

/-- Reads at least one digit. -/
def readDigits (atEnd : Fault) (text : List Char) : Except Stop (List Char × List Char) :=
  let digits := text.takeWhile Char.isDigit
  if digits = [] then .error (missingDigit atEnd text) else .ok (digits, text.drop digits.length)

/-- Reads the digits before the point; a zero is not followed by others. -/
def readWhole (atEnd : Fault) (text : List Char) : Except Stop (List Char × List Char) :=
  match text with
  | '0' :: rest =>
    match rest with
    | c :: _ => if c.isDigit then .error (.before .invalidNumber rest) else .ok (['0'], rest)
    | [] => .ok (['0'], [])
  | _ => readDigits atEnd text

/-- Reads a point and the digits behind it, if there is a point. -/
def readFraction (atEnd : Fault) (text : List Char) :
    Except Stop (Option (List Char) × List Char) :=
  match text with
  | '.' :: rest => (readDigits atEnd rest).map fun (digits, after) => (some digits, after)
  | _ => .ok (none, text)

/-- Reads an exponent, if there is one. -/
def readExponent (atEnd : Fault) (text : List Char) :
    Except Stop (Option (Bool × List Char) × List Char) :=
  match text with
  | c :: rest =>
    if c = 'e' ∨ c = 'E' then
      let (positive, digits) :=
        match rest with
        | '+' :: more => (true, more)
        | '-' :: more => (false, more)
        | _ => (true, rest)
      (readDigits atEnd digits).map fun (digits, after) => (some (positive, digits), after)
    else .ok (none, text)
  | [] => .ok (none, text)

/-- Reads the parts of a number.  What is missing at the end of the text is reported as `atEnd`. -/
def readNumeral (atEnd : Fault) (text : List Char) : Except Stop (Numeral × List Char) := do
  let (isNegative, digits) :=
    match text with
    | '-' :: rest => (true, rest)
    | _ => (false, text)
  let (whole, text) ← readWhole atEnd digits
  let (fraction, text) ← readFraction atEnd text
  let (exponent, text) ← readExponent atEnd text
  .ok (⟨isNegative, whole, fraction, exponent⟩, text)

theorem length_lt_of_readDigits {atEnd : Fault} {text digits rest : List Char}
    (h : readDigits atEnd text = .ok (digits, rest)) : rest.length < text.length := by
  unfold readDigits at h
  simp only at h
  split at h
  · simp at h
  · rename_i hne
    obtain ⟨rfl, rfl⟩ := Prod.mk.injEq .. ▸ Except.ok.injEq .. ▸ h
    have hle : (text.takeWhile Char.isDigit).length ≤ text.length :=
      (List.takeWhile_prefix Char.isDigit).length_le
    have hpos : 0 < (text.takeWhile Char.isDigit).length := List.length_pos_iff.2 hne
    simp only [List.length_drop]
    omega

theorem length_lt_of_readWhole {atEnd : Fault} {text digits rest : List Char}
    (h : readWhole atEnd text = .ok (digits, rest)) : rest.length < text.length := by
  unfold readWhole at h
  split at h
  · split at h
    · split at h
      · simp at h
      · obtain ⟨_, rfl⟩ := Prod.mk.injEq .. ▸ Except.ok.injEq .. ▸ h
        simp
    · obtain ⟨_, rfl⟩ := Prod.mk.injEq .. ▸ Except.ok.injEq .. ▸ h
      simp
  · exact length_lt_of_readDigits h

theorem length_le_of_readFraction {atEnd : Fault} {text rest : List Char}
    {digits : Option (List Char)} (h : readFraction atEnd text = .ok (digits, rest)) :
    rest.length ≤ text.length := by
  unfold readFraction at h
  split at h
  · rename_i more
    cases hd : readDigits atEnd more with
    | error _ => rw [hd] at h; simp [Except.map] at h
    | ok r =>
      rw [hd] at h
      simp only [Except.map, Except.ok.injEq, Prod.mk.injEq] at h
      have := length_lt_of_readDigits hd
      rw [← h.2]
      simp
      omega
  · obtain ⟨_, rfl⟩ := Prod.mk.injEq .. ▸ Except.ok.injEq .. ▸ h
    exact Nat.le_refl _

theorem length_le_of_readExponent {atEnd : Fault} {text rest : List Char}
    {digits : Option (Bool × List Char)} (h : readExponent atEnd text = .ok (digits, rest)) :
    rest.length ≤ text.length := by
  unfold readExponent at h
  split at h
  · rename_i c more
    split at h
    · simp only at h
      generalize hs : (match more with
        | '+' :: more => (true, more)
        | '-' :: more => (false, more)
        | _ => (true, more)) = signed at h
      have hlen : signed.2.length ≤ more.length := by
        rw [← hs]
        split <;> simp
      cases hd : readDigits atEnd signed.2 with
      | error _ => rw [hd] at h; simp [Except.map] at h
      | ok r =>
        rw [hd] at h
        simp only [Except.map, Except.ok.injEq, Prod.mk.injEq] at h
        have := length_lt_of_readDigits hd
        rw [← h.2]
        simp
        omega
    · obtain ⟨_, rfl⟩ := Prod.mk.injEq .. ▸ Except.ok.injEq .. ▸ h
      exact Nat.le_refl _
  · obtain ⟨_, rfl⟩ := Prod.mk.injEq .. ▸ Except.ok.injEq .. ▸ h
    exact Nat.le_refl _

theorem length_lt_of_readNumeral {atEnd : Fault} {text rest : List Char} {numeral : Numeral}
    (h : readNumeral atEnd text = .ok (numeral, rest)) : rest.length < text.length := by
  unfold readNumeral at h
  generalize hs : (match text with
    | '-' :: rest => (true, rest)
    | _ => (false, text)) = signed at h
  have hlen : signed.2.length ≤ text.length := by
    rw [← hs]
    split <;> simp
  simp only [bind, Except.bind] at h
  cases hw : readWhole atEnd signed.2 with
  | error _ => rw [hw] at h; simp at h
  | ok w =>
    rw [hw] at h
    simp only at h
    cases hf : readFraction atEnd w.2 with
    | error _ => rw [hf] at h; simp at h
    | ok f =>
      rw [hf] at h
      simp only at h
      cases he : readExponent atEnd f.2 with
      | error _ => rw [he] at h; simp at h
      | ok e =>
        rw [he] at h
        simp only [Except.ok.injEq, Prod.mk.injEq] at h
        have h1 := length_lt_of_readWhole hw
        have h2 := length_le_of_readFraction hf
        have h3 := length_le_of_readExponent he
        rw [← h.2]
        omega

/-- The value of a decimal digit. -/
def digitOf (c : Char) : Nat := c.toNat - 48

/-- The greatest significand. -/
def maxSignificand : Nat := Nat.pow 2 64 - 1

/-- Appends digits to a significand while it stays small enough; gives the digits left over. -/
def collect (limit : Nat) : Nat → List Char → Nat × List Char
  | significand, [] => (significand, [])
  | significand, c :: digits =>
    let next := significand * 10 + digitOf c
    if limit < next then (significand, c :: digits) else collect limit next digits

/-- Ten to a power that is a double. -/
def tenTo (n : Nat) : Float := Float.ofScientific 1 false n

/-- The greatest power of ten that is a double. -/
def maxTenPower : Int := 308

/-- A double times a power of ten; none if it is too large. -/
def scale (x : Float) (exponent : Int) : Option Float :=
  if exponent.natAbs ≤ 308 then
    if 0 ≤ exponent then
      let y := x * tenTo exponent.natAbs
      if y.isInf then none else some y
    else some (x / tenTo exponent.natAbs)
  else if x == 0 then some x
  else if 0 ≤ exponent then none
  else scale (x / tenTo 308) (exponent + maxTenPower)
termination_by (-exponent).toNat
decreasing_by simp [maxTenPower]; omega

/-- The largest exponent that is read. -/
def maxExponent : Nat := Nat.pow 2 31 - 1

/-- A double with the sign of its number. -/
def signed (isNegative : Bool) (x : Float) : Float := if isNegative then -x else x

namespace Numeral

/-- The significand of the digits before the point, and those of them that did not fit. -/
def wholePart (numeral : Numeral) : Nat × List Char :=
  collect maxSignificand 0 numeral.whole

/-- The value of a number without point and exponent, if it is an integer of 64 bits. -/
def integer? (numeral : Numeral) : Option Number :=
  match numeral.fraction, numeral.exponent, numeral.wholePart with
  | none, none, (significand, []) =>
    if !numeral.isNegative then some (.unsigned significand)
    else if significand = 0 ∨ Nat.pow 2 63 < significand then none
    else some (.negative significand)
  | _, _, _ => none

/-- The significand of all digits and the power of ten that goes with it, the exponent left out. -/
def significand (numeral : Numeral) : Nat × Int :=
  let (whole, left) := numeral.wholePart
  let fraction := numeral.fraction.getD []
  let (all, dropped) := collect maxSignificand whole fraction
  (all, (left.length : Int) - ((fraction.length - dropped.length : Nat) : Int))

/-- The value of a number that is followed by `rest`.  An exponent that is too large is given up at the
digit that makes it so. -/
def value (numeral : Numeral) (rest : List Char) : Except Stop Number :=
  match numeral.integer? with
  | some number => .ok number
  | none =>
    let (significand, power) := numeral.significand
    let x := significand.toUInt64.toFloat
    let (positive, digits) := numeral.exponent.getD (true, [])
    match collect maxExponent 0 digits with
    | (exponent, []) =>
      match scale x (if positive then power + exponent else power - exponent) with
      | some y => .ok (.floating (signed numeral.isNegative y))
      | none => .error ⟨.numberOutOfRange, rest, 0⟩
    | (_, _ :: left) =>
      if significand ≠ 0 ∧ positive then .error ⟨.numberOutOfRange, left ++ rest, 0⟩
      else .ok (.floating (signed numeral.isNegative 0))

end Numeral

/-- Reads a number. -/
def readNumber (text : List Char) : Except Stop (Number × Shorter text) :=
  match h : readNumeral .endInValue text with
  | .error stop => .error stop
  | .ok (numeral, rest) =>
    (numeral.value rest).map fun number => (number, ⟨rest, length_lt_of_readNumeral h⟩)

/-- Whether a number begins with a character. -/
def startsNumber (c : Char) : Bool := c == '-' || c.isDigit

end LibraryPaths.Json
