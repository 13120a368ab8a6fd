import Remittance.Text.Base32
import Remittance.Text.CodePoint

/-!
# Keys as text

A key of 32 octets is shown as base-32 text of a version octet, the key and a checksum. The version
makes the first letter: `G` for the public key of an account, `S` for a secret seed, `M` for an
account with the number of a sub-account. A text is a key only if it is exactly the text of that
key.
-/

set_option autoImplicit false

namespace Remittance

/-- A public key or a secret seed. -/
abbrev Key := Block 32

namespace Key

/-- The version octet of the text of a public key. -/
def accountVersion : UInt8 := 0x30

/-- The version octet of the text of a secret seed. -/
def seedVersion : UInt8 := 0x90

/-- The version octet of the text of an account with a sub-account number. -/
def subaccountVersion : UInt8 := 0x60

/-- The checksum register after eight more shifts of the polynomial `x^16 + x^12 + x^5 + 1`. -/
def shift : (count : Nat) → (register : Nat) → Nat
  | 0, r => r
  | n + 1, r =>
    shift n (if r / 0x8000 % 2 = 1 then (r * 2 % 0x10000) ^^^ 0x1021 else r * 2 % 0x10000)

/-- The checksum of 16 bits of a byte string. -/
def checksum (b : Octets) : Nat := b.foldl (fun r o => shift 8 (r ^^^ (o.toNat * 256))) 0

/-- The text of a payload under a version. -/
def encode (version : UInt8) (payload : Octets) : String :=
  let body := version :: payload
  Base32.encode (body ++ Octets.ofNatLittle 2 (checksum body))

/-- The payload of `n` octets whose text under a version is `t`. -/
def decode? (n : Nat) (version : UInt8) (t : Text) : Option (Block n) := do
  let b ← Base32.decode? (← t.string?)
  let payload := (b.drop 1).take n
  if h : payload.length = n then
    let body := version :: payload
    if b = body ++ Octets.ofNatLittle 2 (checksum body) then some ⟨payload, h⟩ else none
  else none

/-- The account id of a public key. -/
def accountId (key : Key) : String := encode accountVersion key.val

/-- The public key of an account id. -/
def ofAccountId? (t : Text) : Option Key := decode? 32 accountVersion t

/-- The seed of a secret text. -/
def ofSecret? (t : Text) : Option Key := decode? 32 seedVersion t

end Key

/-- Whether a text is the id of an account. -/
def isAccountId (t : Text) : Bool := (Key.ofAccountId? t).isSome

end Remittance
