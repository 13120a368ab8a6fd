/-!
# Blank characters

Unicode white space, the wider class that is stripped from the ends of a text, and the stripping
itself.
-/

set_option autoImplicit false

namespace Remittance.Blank

/-- Whether a character has the Unicode property White_Space. -/
def isWhiteSpace (c : Char) : Bool :=
  let n := c.toNat
  (0x09 ≤ n && n ≤ 0x0D) || n == 0x20 || n == 0x85 || n == 0xA0 || n == 0x1680 ||
    (0x2000 ≤ n && n ≤ 0x200A) || n == 0x2028 || n == 0x2029 || n == 0x202F || n == 0x205F ||
    n == 0x3000

/-- White space together with the four information separators U+001C to U+001F. -/
def isBlank (c : Char) : Bool := isWhiteSpace c || (0x1C ≤ c.toNat && c.toNat ≤ 0x1F)

/-- The characters without those of a class at either end. -/
def trim (p : Char → Bool) (cs : List Char) : List Char :=
  ((cs.dropWhile p).reverse.dropWhile p).reverse

/-- Whether a text holds blank characters only. -/
def isBlankText (s : String) : Bool := s.toList.all isBlank

end Remittance.Blank
