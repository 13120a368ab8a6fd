import Remittance.Text.CodePoint

/-!
# Destinations

Where a payment goes, and the memo that the destination demands, if it demands one.
-/

set_option autoImplicit false

namespace Remittance

/-- A resolved destination; the account id is as it was given and may be malformed. -/
structure Destination where
  accountId : Text
  memoType : Option Text := none
  memo : Option Text := none
deriving DecidableEq

/-- Whether the destination demands a memo of its own. -/
def Destination.mandatesMemo (d : Destination) : Bool := d.memoType.isSome

end Remittance
