import LibraryPaths.Text.Ranges

/-!
# White space

The characters with the Unicode property White_Space.  Core's `Char.isWhitespace` knows four of them.
-/

set_option autoImplicit false

namespace LibraryPaths

/-- The code points that are white space. -/
def blankRanges : List (Nat × Nat) :=
  [(0x9, 0xD), (0x20, 0x20), (0x85, 0x85), (0xA0, 0xA0), (0x1680, 0x1680), (0x2000, 0x200A),
   (0x2028, 0x2029), (0x202F, 0x202F), (0x205F, 0x205F), (0x3000, 0x3000)]

/-- Whether a character is white space. -/
def isBlank (c : Char) : Bool :=
  covers blankRanges c.toNat

end LibraryPaths
