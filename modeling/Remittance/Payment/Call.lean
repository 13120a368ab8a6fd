import Remittance.Dialogue
import Remittance.Json.Value
import Remittance.Payment.Destination
import Remittance.Payment.Failure
import Remittance.Text.Form

/-!
# Calls

What the payment pipeline asks of others: of a resolver of names, of the ledger, of a compliance
relay and of a signer.
-/

set_option autoImplicit false

namespace Remittance

/-- What is sent to a compliance relay. -/
structure RelayRequest where
  source : Text
  sender : Text
  destination : Text
  amount : Text
  assetCode : Text
  assetIssuer : Text
  extraMemo : Text
deriving DecidableEq

/-- The form of a relay request. -/
def RelayRequest.form (r : RelayRequest) : Fields :=
  [("source", r.source), ("sender", r.sender), ("destination", r.destination),
    ("amount", r.amount), ("asset_code", r.assetCode), ("asset_issuer", r.assetIssuer),
    ("extra_memo", r.extraMemo)]

/-- A call of the pipeline. -/
inductive Call where
  | resolve (identifier : Text)
  | account (accountId : Text)
  | relay (request : RelayRequest)
  | sign (keypair : Keypair) (envelope : Envelope)
  | submit (envelope : String)

/-- What a call gives if it goes well. -/
abbrev Call.Value : Call → Type
  | .resolve _ => Destination
  | .account _ => Snapshot
  | .relay _ => Text
  | .sign .. => Signed
  | .submit _ => Json

/-- What comes back from a call. -/
abbrev Call.Answer (c : Call) : Type := Reply c.Value

end Remittance
