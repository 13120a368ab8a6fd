import Remittance.Text.Octets

/-!
# Base 32

The alphabet `A`–`Z`, `2`–`7` without padding. A text is read only if it is the one that writing
gives: the bits left over in its last character are zero, and there are fewer than five of them.
-/

set_option autoImplicit false

namespace Remittance.Base32

/-- The character for a number below thirty-two. -/
def digit (n : Nat) : Char := if n < 26 then Char.ofNat (65 + n) else Char.ofNat (24 + n)

/-- The number that a character stands for. -/
def value? (c : Char) : Option Nat :=
  if 'A' ≤ c ∧ c ≤ 'Z' then some (c.toNat - 65)
  else if '2' ≤ c ∧ c ≤ '7' then some (c.toNat - 24)
  else none

/-- The last `width` base-32 digits of a number. -/
def digits : (width : Nat) → (n : Nat) → List Char
  | 0, _ => []
  | w + 1, n => digits w (n / 32) ++ [digit (n % 32)]

/-- The number spelt by base-32 digits. -/
def number? (cs : List Char) : Option Nat :=
  cs.foldl (fun n c => do pure ((← n) * 32 + (← value? c))) (some 0)

/-- The text of a byte string. -/
def encode (b : Octets) : String :=
  let width := (8 * b.length + 4) / 5
  String.ofList (digits width (Octets.toNat b * Nat.pow 2 (5 * width - 8 * b.length)))

/-- The byte string of a text that is written exactly as `encode` writes it. -/
def decode? (s : String) : Option Octets := do
  let width := s.toList.length
  let count := 5 * width / 8
  let spare := 5 * width - 8 * count
  let n ← number? s.toList
  if spare < 5 ∧ n % Nat.pow 2 spare = 0 then some (Octets.ofNat count (n / Nat.pow 2 spare))
  else none

end Remittance.Base32
