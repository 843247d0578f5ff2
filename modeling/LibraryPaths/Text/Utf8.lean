/-!
# UTF-8

Octets are read by a machine that holds at most one unfinished character.  Each lead octet fixes how
many octets follow and which values the next of them may take, so overlong forms, surrogates and code
points above U+10FFFF are never completed.  An octet that cannot continue the unfinished character ends
it as one ill-formed piece and is then read afresh; hence a piece is as long as it can be while it is
still the beginning of some character.

`decode?` accepts exactly the texts without ill-formed pieces, `decodeLossy` puts U+FFFD in place of
each of them.
-/

set_option autoImplicit false

namespace LibraryPaths.Utf8

/-- A character whose last octets are still to come. -/
structure Pending where
  /-- The bits read so far. -/
  code : Nat
  /-- How many octets are still missing. -/
  missing : Nat
  /-- The least value of the next octet. -/
  low : Nat
  /-- The greatest value of the next octet. -/
  high : Nat
  deriving DecidableEq, Repr

/-- Between characters, or inside one. -/
inductive State where
  | ready
  | within (p : Pending)
  deriving DecidableEq, Repr

/-- An octet read between characters.  An ill-formed piece is given as `none`. -/
def start (b : Nat) : List (Option Char) × State :=
  if b < 0x80 then ([some (Char.ofNat b)], .ready)
  else if b < 0xC2 then ([none], .ready)
  else if b < 0xE0 then ([], .within ⟨b - 0xC0, 1, 0x80, 0xBF⟩)
  else if b = 0xE0 then ([], .within ⟨b - 0xE0, 2, 0xA0, 0xBF⟩)
  else if b = 0xED then ([], .within ⟨b - 0xE0, 2, 0x80, 0x9F⟩)
  else if b < 0xF0 then ([], .within ⟨b - 0xE0, 2, 0x80, 0xBF⟩)
  else if b = 0xF0 then ([], .within ⟨b - 0xF0, 3, 0x90, 0xBF⟩)
  else if b < 0xF4 then ([], .within ⟨b - 0xF0, 3, 0x80, 0xBF⟩)
  else if b = 0xF4 then ([], .within ⟨b - 0xF0, 3, 0x80, 0x8F⟩)
  else ([none], .ready)

/-- One octet: the characters and ill-formed pieces it completes, and the state after it. -/
def feed : State → UInt8 → List (Option Char) × State
  | .ready, b => start b.toNat
  | .within p, b =>
    if p.low ≤ b.toNat ∧ b.toNat ≤ p.high then
      let code := p.code * 64 + (b.toNat - 0x80)
      if p.missing ≤ 1 then ([some (Char.ofNat code)], .ready)
      else ([], .within ⟨code, p.missing - 1, 0x80, 0xBF⟩)
    else
      let (out, state) := start b.toNat
      (none :: out, state)

/-- The characters of an octet sequence, with `none` for each ill-formed piece. -/
def pieces : State → List UInt8 → List (Option Char)
  | .ready, [] => []
  | .within _, [] => [none]
  | state, b :: bs =>
    let (out, state') := feed state b
    out ++ pieces state' bs

/-- The characters of a well-formed octet sequence. -/
def decode? (bytes : List UInt8) : Option (List Char) :=
  (pieces .ready bytes).mapM id

/-- The characters of any octet sequence, U+FFFD standing for each ill-formed piece. -/
def decodeLossy (bytes : List UInt8) : List Char :=
  (pieces .ready bytes).map (·.getD '\uFFFD')

/-- The octets of a text. -/
def encode (text : List Char) : List UInt8 :=
  text.flatMap String.utf8EncodeChar

end LibraryPaths.Utf8
