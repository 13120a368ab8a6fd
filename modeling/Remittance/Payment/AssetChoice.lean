import Remittance.Payment.Cause

/-!
# Choosing the asset

A code and an issuer together name a credit asset; neither of them means the native asset.
-/

set_option autoImplicit false

namespace Remittance

/-- The asset that the two fields of a request name. The code is checked when the transaction is
built. -/
def Asset.ofFields (code issuer : Text) : Except Cause Asset :=
  match code.isEmpty, issuer.isEmpty with
  | false, false =>
    if isAccountId issuer then .ok (.credit code issuer) else .error (.badIssuer issuer)
  | true, true => .ok .native
  | _, _ => .error .assetHalf

end Remittance
