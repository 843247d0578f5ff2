import LibraryPaths.Text.Hex

/-!
# Percent encoding

An octet of a reserved class is written as `%` and two upper-case hexadecimal digits.  Reading accepts
digits of either case; a `%` without two digits behind it stands for itself.
-/

set_option autoImplicit false

namespace LibraryPaths.Percent

/-- One octet, written as itself or by its digits. -/
def encodeOctet (reserved : UInt8 → Bool) (b : UInt8) : List Char :=
  if reserved b then ['%', hexDigit (b.toNat / 16), hexDigit (b.toNat % 16)]
  else [Char.ofNat b.toNat]

/-- Octets as text; the octets outside ASCII have to be reserved. -/
def encode (reserved : UInt8 → Bool) (bytes : List UInt8) : List Char :=
  bytes.flatMap (encodeOctet reserved)

/-- The octets a text stands for. -/
def decode : List Char → List UInt8
  | '%' :: a :: b :: rest =>
    match hexValue? a, hexValue? b with
    | some high, some low => UInt8.ofNat (high * 16 + low) :: decode rest
    | _, _ => '%'.toUInt8 :: decode (a :: b :: rest)
  | c :: rest => String.utf8EncodeChar c ++ decode rest
  | [] => []

/-- Controls and everything outside ASCII. -/
def isControl (b : UInt8) : Bool := b < 0x20 || 0x7F ≤ b

/-- The octets that are encoded in a fragment. -/
def inFragment (b : UInt8) : Bool :=
  isControl b || [' ', '"', '<', '>', '\x60'].any (·.toUInt8 == b)

/-- The octets that are encoded in a query. -/
def inQuery (b : UInt8) : Bool :=
  isControl b || [' ', '"', '#', '<', '>'].any (·.toUInt8 == b)

/-- The octets that are encoded in the query of a special address. -/
def inSpecialQuery (b : UInt8) : Bool :=
  inQuery b || '\''.toUInt8 == b

/-- The octets that are encoded in a path. -/
def inPath (b : UInt8) : Bool :=
  inFragment b || ['#', '?', '\x7b', '\x7d'].any (·.toUInt8 == b)

/-- The octets that are encoded in a user and a password. -/
def inUser (b : UInt8) : Bool :=
  inPath b || ['/', ':', ';', '=', '@', '[', '\\', ']', '^', '|'].any (·.toUInt8 == b)

/-- The octets that are encoded in a name that becomes one segment of a path. -/
def inName (b : UInt8) : Bool :=
  inPath b || ['/', '%', '\\'].any (·.toUInt8 == b)

end LibraryPaths.Percent
