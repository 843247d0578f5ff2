/-!
# The shortest decimal of a binary number

A finite double is `m · 2 ^ q`, and every real between the midpoints to its two neighbours is read back as
it; the midpoints themselves are when `m` is even.  `shortest` looks on the grids of 1, 2, … 17 decimal
digits for a point in that interval.  The two grid points next to the number suffice: if any point of a
grid lies in the interval, so does one of them.  The first grid with a hit wins, and of two hits the one
nearer to the number.

All arithmetic is exact: a positive rational is a pair of natural numbers.
-/

set_option autoImplicit false

namespace LibraryPaths.Decimal

/-- A positive number `m · 2 ^ q` and whether its lower neighbour is nearer than its upper one. -/
structure Binary where
  m : Nat
  q : Int
  narrow : Bool
  deriving DecidableEq, Repr

/-- The finite double with the given bits, without its sign; zero has no entry. -/
def Binary.ofBits? (bits : Nat) : Option Binary :=
  let fraction : Nat := bits % Nat.pow 2 52
  let exponent : Nat := bits / Nat.pow 2 52 % Nat.pow 2 11
  if exponent = 2047 then none
  else if exponent = 0 then (if fraction = 0 then none else some ⟨fraction, -1074, false⟩)
  else some ⟨Nat.pow 2 52 + fraction, (exponent : Int) - 1075, fraction == 0 && exponent != 1⟩

/-- A decimal `digits · 10 ^ exponent`. -/
structure Scaled where
  digits : Nat
  exponent : Int
  deriving DecidableEq, Repr

/-- A positive rational. -/
structure Ratio where
  num : Nat
  den : Nat
  deriving DecidableEq, Repr

/-- `n · 2 ^ e`. -/
def Ratio.scaleTwo (n : Nat) (e : Int) : Ratio :=
  ⟨n * Nat.pow 2 e.toNat, Nat.pow 2 (-e).toNat⟩

/-- The ratio multiplied by `10 ^ e`. -/
def Ratio.scaleTen (r : Ratio) (e : Int) : Ratio :=
  ⟨r.num * Nat.pow 10 e.toNat, r.den * Nat.pow 10 (-e).toNat⟩

/-- Whether one ratio is less than another. -/
def Ratio.lt (r s : Ratio) : Bool := decide (r.num * s.den < s.num * r.den)

/-- The number of decimal digits of a natural number. -/
def digitCount (n : Nat) : Nat := (Nat.toDigits 10 n).length

/-- The exponent of the first decimal digit of a ratio. -/
def Ratio.magnitude (r : Ratio) : Int :=
  if r.den ≤ r.num then (digitCount (r.num / r.den) : Int) - 1
  else
    let shift := digitCount (r.den / r.num)
    -- The ratio times ten to this shift is at least one tenth and less than ten.
    if r.num * Nat.pow 10 (shift - 1) < r.den then -(shift : Int) else -(shift : Int) + 1

/-- The interval of the reals that are read back as a number. -/
structure Interval where
  low : Ratio
  high : Ratio
  closed : Bool

/-- Whether a ratio lies in an interval. -/
def Interval.contains (i : Interval) (r : Ratio) : Bool :=
  if i.closed then !r.lt i.low && !i.high.lt r else i.low.lt r && r.lt i.high

/-- The interval of a binary number. -/
def Binary.interval (b : Binary) : Interval :=
  { low := .scaleTwo (if b.narrow then 4 * b.m - 1 else 4 * b.m - 2) (b.q - 2)
    high := .scaleTwo (4 * b.m + 2) (b.q - 2)
    closed := b.m % 2 == 0 }

/-- The value of a decimal. -/
def Scaled.value (d : Scaled) : Ratio := (⟨d.digits, 1⟩ : Ratio).scaleTen d.exponent

/-- The grid point in the interval that is nearest to the number, on the grid with a given exponent. -/
def onGrid? (value : Ratio) (interval : Interval) (exponent : Int) : Option Scaled :=
  let scaled := value.scaleTen (-exponent)
  let below := scaled.num / scaled.den
  let lower : Scaled := ⟨below, exponent⟩
  let upper : Scaled := ⟨below + 1, exponent⟩
  let lowerFits := interval.contains lower.value && below != 0
  let upperFits := interval.contains upper.value
  -- Twice the distance to the lower point, against one step of the grid.
  let twice := 2 * (scaled.num - below * scaled.den)
  let lowerNearer := decide (twice < scaled.den) || (twice == scaled.den && below % 2 == 0)
  if lowerFits && (lowerNearer || !upperFits) then some lower
  else if upperFits then some upper
  else none

/-- The shortest decimal that is read back as a number. -/
def Binary.shortest? (b : Binary) : Option Scaled :=
  let value := Ratio.scaleTwo b.m b.q
  let magnitude := value.magnitude
  (List.range 17).findSome? fun (more : Nat) => onGrid? value b.interval (magnitude - more)

end LibraryPaths.Decimal
