import Remittance.Payment.Cause
import Remittance.Payment.Destination

/-!
# The memo policy

Type and value of a memo come together or not at all. A destination that demands a memo forbids one
in the request and supplies its own. The pair that is left decides the memo.
-/

set_option autoImplicit false

namespace Remittance.MemoPolicy

/-- Why there is no memo: a cause of failure, or something that the policy does not take care of. -/
inductive Refusal where
  | cause (c : Cause)
  | escape (e : Escape)

/-- The memo of a number in decimal digits. -/
def parseId (value : Text) : Except Refusal Memo :=
  match value.string? with
  | some s =>
    if Numeral.isNumeral s.toList then
      match Numeral.read s.toList with
      | .error e => .error (.escape (.digits e))
      | .ok n =>
        if n ≤ Memo.maxId then .ok (.id (UInt64.ofNat n)) else .error (.cause (.memoId value))
    else .error (.cause (.memoId value))
  | none => .error (.cause (.memoId value))

/-- The memo of a text, which must have octets. -/
def parseText (value : Text) : Except Refusal Memo :=
  match value.octets with
  | .ok octets => .ok (.text octets)
  | .error e => .error (.escape (.torn e))

/-- The memo of a hash in hexadecimal digits. -/
def parseHash (value : Text) : Except Refusal Memo :=
  match value.string?.bind Octets.ofHex? with
  | some octets =>
    if h : octets.length = 32 then .ok (.hash ⟨octets, h⟩) else .error (.cause (.memoHash value))
  | none => .error (.cause (.memoHash value))

/-- The memo of a type and a value. -/
def parse (type value : Text) : Except Refusal Memo :=
  if type = "" then .ok .none
  else if type = "id" then parseId value
  else if type = "text" then parseText value
  else if type = "hash" then parseHash value
  else .error (.cause (.memoType type))

/-- The memo of a payment, from the request's type and value and the destination. -/
def decide (type value : Text) (destination : Destination) : Except Refusal Memo :=
  if type.isEmpty != value.isEmpty then .error (.cause .memoHalf)
  else match destination.memoType with
    | some demanded =>
      if type.isEmpty then parse demanded (destination.memo.getD "")
      else .error (.cause .memoConflict)
    | none => parse type value

end Remittance.MemoPolicy
