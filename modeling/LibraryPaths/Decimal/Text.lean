import LibraryPaths.Decimal.Shortest

/-!
# The text of a floating point number

A number is written with its shortest digits.  Where the exponent of the first digit lies between -5 and
15 the point stands at its place and at least one digit follows it; elsewhere the point follows the first
digit, if there are others, and the exponent is written with its sign.
-/

set_option autoImplicit false

namespace LibraryPaths.Decimal

/-- The exponents of the first digit at which the point is written at its place. -/
structure Layout where
  least : Int
  greatest : Int
  deriving DecidableEq, Repr

/-- The layout of numbers in messages. -/
def messageLayout : Layout := ⟨-5, 15⟩

/-- The digits of a number without the zeros at its end. -/
def significantDigits (n : Nat) : List Char :=
  ((Nat.toDigits 10 n).reverse.dropWhile (· == '0')).reverse

/-- The text of digits whose first one has the given exponent. -/
def layOut (layout : Layout) (digits : List Char) (exponent : Int) : List Char :=
  if layout.least ≤ exponent ∧ exponent ≤ layout.greatest then
    if exponent < 0 then
      '0' :: '.' :: List.replicate (-exponent - 1).toNat '0' ++ digits
    else
      let whole := exponent.toNat + 1
      let padded := digits ++ List.replicate (whole - digits.length) '0'
      let fraction := padded.drop whole
      padded.take whole ++ '.' :: (if fraction.isEmpty then ['0'] else fraction)
  else
    let sign := if exponent < 0 then '-' else '+'
    let fraction := digits.drop 1
    digits.take 1 ++ (if fraction.isEmpty then [] else '.' :: fraction) ++
      'e' :: sign :: Nat.toDigits 10 exponent.natAbs

/-- The text of a finite double; the sign of zero is written. -/
def floatText (x : Float) : String :=
  let bits := x.toBits.toNat
  let sign := if Nat.pow 2 63 ≤ bits then ['-'] else []
  let body :=
    match (Binary.ofBits? bits).bind Binary.shortest? with
    | none => "0.0".toList
    | some d =>
      let written := Nat.toDigits 10 d.digits
      layOut messageLayout (significantDigits d.digits) (d.exponent + (written.length : Int) - 1)
  String.ofList (sign ++ body)

end LibraryPaths.Decimal
