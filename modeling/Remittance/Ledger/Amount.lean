import Remittance.Decimal.Numeral
import Remittance.Text.Quoted

/-!
# Amounts

An amount is given as plain decimal text: digits, and perhaps a point with one to seven digits
after it. The ledger counts in units of 10^-7. An amount is at least one unit and fits in 63 bits.
-/

set_option autoImplicit false

namespace Remittance.Amount

/-- The number of decimal places of the ledger's unit. -/
def places : Nat := 7

/-- The largest amount, in units: `2^63 - 1`. -/
def maximum : Nat := 0x7FFFFFFFFFFFFFFF

/-- Why a text is no amount. -/
inductive Rejection where
  | unreadable (text : Text)
  | outOfRange (text : Text)
  | digits (e : Numeral.TooLong)
deriving DecidableEq

/-- The wording of a rejection. -/
def Rejection.message : Rejection → String
  | .unreadable text => "cannot parse amount: " ++ Quoted.quote text
  | .outOfRange text => "cannot parse amount: " ++ Quoted.quote text ++ " is out of range"
  | .digits e => e.message

/-- The digits before and after the point of a text of the form of an amount. -/
def split? (t : Text) : Option (List Char × List Char) := do
  let s ← t.string?
  let whole := s.toList.takeWhile Char.isDigit
  let rest := s.toList.dropWhile Char.isDigit
  if whole.isEmpty then none
  else match rest with
    | [] => some (whole, [])
    | '.' :: part =>
      if !part.isEmpty && part.length ≤ places && part.all Char.isDigit then some (whole, part)
      else none
    | _ => none

/-- The number of units that the digits before and after a point spell. -/
def units (whole : Nat) (part : List Char) : Nat :=
  whole * Nat.pow 10 places + Numeral.value (part ++ List.replicate (places - part.length) '0')

/-- The amount that a text gives, in units. -/
def parse (t : Text) : Except Rejection Nat :=
  match split? t with
  | none => .error (.unreadable t)
  | some (whole, part) =>
    match Numeral.read whole with
    | .error e => .error (.digits e)
    | .ok w =>
      let n := units w part
      if n = 0 ∨ maximum < n then .error (.outOfRange t) else .ok n

end Remittance.Amount
