/-!
# Octets

Byte strings are lists of octets. The module gives their big-endian reading as a number, their
hexadecimal text, and the octets of a text in UTF-8.
-/

set_option autoImplicit false

namespace Remittance

/-- A byte string. -/
abbrev Octets := List UInt8

namespace Octets

/-- The octets of a text in UTF-8. -/
def ofText (s : String) : Octets := s.toList.flatMap String.utf8EncodeChar

/-- The number that the octets spell, the first octet being the most significant. -/
def toNat (b : Octets) : Nat := b.foldl (fun n o => n * 256 + o.toNat) 0

/-- The last `width` octets of the base-256 spelling of `n`, most significant first. -/
def ofNat : (width : Nat) → (n : Nat) → Octets
  | 0, _ => []
  | w + 1, n => ofNat w (n / 256) ++ [UInt8.ofNat n]

/-- The number that the octets spell, the first octet being the least significant. -/
def toNatLittle (b : Octets) : Nat := toNat b.reverse

/-- `width` octets of `n`, least significant first. -/
def ofNatLittle (width n : Nat) : Octets := (ofNat width n).reverse

/-- A number of so many octets has so many. -/
@[simp] theorem length_ofNat (width n : Nat) : (ofNat width n).length = width := by
  induction width generalizing n with
  | zero => rfl
  | succ w ih => simp [ofNat, ih]

/-- The lower-case hexadecimal digit of a number below sixteen. -/
def hexDigit (n : Nat) : Char :=
  if n < 10 then Char.ofNat (48 + n) else Char.ofNat (87 + n)

/-- Two lower-case hexadecimal digits for each octet. -/
def hex (b : Octets) : String :=
  String.ofList (b.flatMap fun o => [hexDigit (o.toNat / 16), hexDigit (o.toNat % 16)])

/-- The value of a hexadecimal digit of either case. -/
def hexValue? (c : Char) : Option Nat :=
  if '0' ≤ c ∧ c ≤ '9' then some (c.toNat - 48)
  else if 'a' ≤ c ∧ c ≤ 'f' then some (c.toNat - 87)
  else if 'A' ≤ c ∧ c ≤ 'F' then some (c.toNat - 55)
  else none

/-- The octets spelt by pairs of hexadecimal digits; nothing for an odd count or another
character. -/
def ofHexDigits? : List Char → Option Octets
  | [] => some []
  | [_] => none
  | h :: l :: rest => do
    let high ← hexValue? h
    let low ← hexValue? l
    let more ← ofHexDigits? rest
    pure (UInt8.ofNat (high * 16 + low) :: more)

/-- The octets spelt by a hexadecimal text. -/
def ofHex? (s : String) : Option Octets := ofHexDigits? s.toList

end Octets

/-- A byte string of a fixed length. -/
abbrev Block (n : Nat) := { b : Octets // b.length = n }

/-- A byte string of at most `n` octets. -/
abbrev BlockUpTo (n : Nat) := { b : Octets // b.length ≤ n }

end Remittance
