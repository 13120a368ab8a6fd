import Remittance.Text.Octets

/-!
# Base 64

Writing is standard and padded. Reading is lenient: characters outside the alphabet are passed
over, and an equals sign counts only where it completes the group in progress, which ends the text.
-/

set_option autoImplicit false

namespace Remittance.Base64

/-- The character for a number below sixty-four. -/
def digit (n : Nat) : Char :=
  if n < 26 then Char.ofNat (65 + n)
  else if n < 52 then Char.ofNat (71 + n)
  else if n < 62 then Char.ofNat (n - 4)
  else if n = 62 then '+' else '/'

/-- The number that an octet of the text stands for. -/
def value? (o : UInt8) : Option Nat :=
  let n := o.toNat
  if 65 ≤ n ∧ n ≤ 90 then some (n - 65)
  else if 97 ≤ n ∧ n ≤ 122 then some (n - 71)
  else if 48 ≤ n ∧ n ≤ 57 then some (n + 4)
  else if n = 43 then some 62
  else if n = 47 then some 63
  else none

/-- The characters for a byte string, three octets at a time. -/
def encodeChars : Octets → List Char
  | [] => []
  | [a] => [digit (a.toNat / 4), digit (a.toNat % 4 * 16), '=', '=']
  | [a, b] =>
    [digit (a.toNat / 4), digit (a.toNat % 4 * 16 + b.toNat / 16), digit (b.toNat % 16 * 4), '=']
  | a :: b :: c :: rest =>
    digit (a.toNat / 4) :: digit (a.toNat % 4 * 16 + b.toNat / 16) ::
      digit (b.toNat % 16 * 4 + c.toNat / 64) :: digit (c.toNat % 64) :: encodeChars rest

/-- The text of a byte string. -/
def encode (b : Octets) : String := String.ofList (encodeChars b)

/-- The values of the characters that count, up to the end of the text or the sign that completes
a group; nothing if the text ends inside a group. `count` values were read before, and `signs`
equals signs since the last of them. -/
def values? (count signs : Nat) : Octets → Option (List Nat)
  | [] => if count % 4 = 0 then some [] else none
  | o :: rest =>
    if o = 61 then
      if count % 4 < 2 then values? count signs rest
      else if 4 ≤ count % 4 + signs + 1 then some []
      else values? count (signs + 1) rest
    else match value? o with
      | none => values? count signs rest
      | some v => (values? (count + 1) 0 rest).map (v :: ·)

/-- The octets that groups of four values spell; a last group of two or three spells one fewer
octet than it has values. -/
def gather : List Nat → Octets
  | a :: b :: c :: d :: rest =>
    UInt8.ofNat (a * 4 + b / 16) :: UInt8.ofNat (b * 16 + c / 4) :: UInt8.ofNat (c * 64 + d) ::
      gather rest
  | [a, b, c] => [UInt8.ofNat (a * 4 + b / 16), UInt8.ofNat (b * 16 + c / 4)]
  | [a, b] => [UInt8.ofNat (a * 4 + b / 16)]
  | _ => []

/-- The byte string that a text spells, read leniently. -/
def decode? (s : String) : Option Octets := (values? 0 0 (Octets.ofText s)).map gather

end Remittance.Base64
