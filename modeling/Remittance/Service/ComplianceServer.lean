import Remittance.Payment.Call
import Remittance.Service.Exchange

/-!
# The compliance server

The server is sent the fields of a payment and answers with the transaction that is to be signed.
-/

set_option autoImplicit false

namespace Remittance.ComplianceServer

/-- The shape of the server's answer. -/
def answerShape : Json.Shape where
  required := ["transaction_xdr"]
  rules := [{ name := "transaction_xdr", kinds := [.text], nonEmpty := true }]

/-- What a body that is no answer means. -/
def errorOf : RecordError → RelayError
  | .body e => .body e
  | .shape e => .shape e

/-- The transaction in a response, as text. -/
def read (r : Response) : Except (Json.Unread RelayError) Text :=
  if r.status ≠ 200 then .error (.error (.status r.status r.text))
  else match r.members answerShape with
    | .error e => .error (e.map errorOf)
    | .ok members => .ok (((members.get? "transaction_xdr").bind Json.text?).getD "")

/-- Sends the fields of a payment. -/
def send (url : String) (request : RelayRequest) : Exchange Text :=
  .once (.post (Http.withoutLastSlashes url ++ "/send") request.form) fun r =>
    (read r).mapError (.ofUnread .relay)

end Remittance.ComplianceServer
