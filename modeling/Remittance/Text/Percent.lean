import Remittance.Text.Utf8

/-!
# Percent encoding

A text is written octet by octet: unreserved octets as they are, all others as a percent sign and
two upper-case hexadecimal digits. Inside a form field the space is written as a plus sign.
-/

set_option autoImplicit false

namespace Remittance.Percent

/-- Whether a character is written as itself: an ASCII letter or digit, or one of four signs. -/
def isUnreserved (c : Char) : Bool :=
  c.isAlphanum || c == '_' || c == '.' || c == '-' || c == '~'

/-- The upper-case hexadecimal digit of a number below sixteen. -/
def hexDigit (n : Nat) : Char :=
  if n < 10 then Char.ofNat (48 + n) else Char.ofNat (55 + n)

/-- An octet by its number. -/
def escape (o : UInt8) : List Char := ['%', hexDigit (o.toNat / 16), hexDigit (o.toNat % 16)]

/-- An octet as it is written. -/
def encodeOctet (o : UInt8) : List Char :=
  let c := Char.ofNat o.toNat
  if isUnreserved c then [c] else escape o

/-- Characters in which only unreserved ones and those of a class are as they are. -/
def quote (isSafe : Char → Bool) (cs : List Char) : List Char :=
  cs.flatMap fun c =>
    if isUnreserved c || isSafe c then [c] else (Octets.ofText (String.ofList [c])).flatMap escape

/-- A text as one segment of a path. -/
def encodeSegment (s : String) : String := String.ofList ((Octets.ofText s).flatMap encodeOctet)

/-- A text as a name or value of a form. -/
def encodeField (s : String) : String :=
  String.ofList ((Octets.ofText s).flatMap fun o => if o = 32 then ['+'] else encodeOctet o)

/-- The octets that characters below U+0080 spell; a percent sign that is not followed by two
hexadecimal digits stands for itself. -/
def decodeOctets : List Char → Octets
  | '%' :: h :: l :: rest =>
    match Octets.hexValue? h, Octets.hexValue? l with
    | some high, some low => UInt8.ofNat (high * 16 + low) :: decodeOctets rest
    | _, _ => 37 :: decodeOctets (h :: l :: rest)
  | c :: rest => UInt8.ofNat c.toNat :: decodeOctets rest
  | [] => []

/-- The text that an encoded text stands for: each run of characters below U+0080 is decoded as
UTF-8, and all other characters are kept. -/
def decodeRuns (run : List Char) : List Char → List Char
  | [] => (Utf8.decodeLossy (decodeOctets run.reverse)).toList
  | c :: rest =>
    if c.toNat < 0x80 then decodeRuns (c :: run) rest
    else (Utf8.decodeLossy (decodeOctets run.reverse)).toList ++ c :: decodeRuns [] rest

/-- The text that a path segment stands for. -/
def decodeSegment (s : String) : String := String.ofList (decodeRuns [] s.toList)

/-- The text that a name or value of a form stands for. -/
def decodeField (cs : List Char) : String :=
  String.ofList (decodeRuns [] (cs.map fun c => if c = '+' then ' ' else c))

end Remittance.Percent
