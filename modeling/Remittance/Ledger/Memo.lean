import Remittance.Decimal.Numeral
import Remittance.Text.Octets

/-!
# Memos

A request's memo is nothing, a number of 64 bits, a text of any length, or 32 octets. The ledger's
memo has at most 28 octets of text and a further kind that a request cannot ask for.
-/

set_option autoImplicit false

namespace Remittance

/-- The memo of a request. -/
inductive Memo where
  | none
  | id (value : UInt64)
  | text (octets : Octets)
  | hash (octets : Block 32)
deriving DecidableEq

namespace Memo

/-- The largest number in a memo: `2^64 - 1`. -/
def maxId : Nat := 0xFFFFFFFFFFFFFFFF

/-- The most octets of a text memo that the ledger takes. -/
def maxText : Nat := 28

/-- Why a value cannot be a memo. -/
inductive Rejection where
  | idOutOfRange (value : Int)
  | hashLength (count : Nat)
deriving DecidableEq

/-- The wording of a rejection. -/
def Rejection.message : Rejection → String
  | .idOutOfRange value => "memo id out of uint64 range: " ++ Numeral.ofInt value
  | .hashLength count => "hash memo must be 32 bytes, got " ++ Numeral.ofNat count

/-- The memo of a number. -/
def ofId (value : Int) : Except Rejection Memo :=
  if 0 ≤ value ∧ value ≤ maxId then .ok (.id (UInt64.ofNat value.toNat))
  else .error (.idOutOfRange value)

/-- The memo of a hash. -/
def ofHash (octets : Octets) : Except Rejection Memo :=
  if h : octets.length = 32 then .ok (.hash ⟨octets, h⟩) else .error (.hashLength octets.length)

end Memo

/-- A memo of the ledger. -/
inductive LedgerMemo where
  | none
  | text (octets : BlockUpTo 28)
  | id (value : UInt64)
  | hash (octets : Block 32)
  | returnHash (octets : Block 32)
deriving DecidableEq

/-- The ledger's form of a memo; a long text has none. -/
def Memo.toLedger? : Memo → Option LedgerMemo
  | .none => some .none
  | .id value => some (.id value)
  | .text octets => if h : octets.length ≤ 28 then some (.text ⟨octets, h⟩) else Option.none
  | .hash octets => some (.hash octets)

end Remittance
