import Remittance.Text.Form
import Remittance.Text.Quoted

/-!
# Payment requests

The nine fields of a request as they came, absent ones empty. A request is shown without its
secret.
-/

set_option autoImplicit false

namespace Remittance

/-- An untrusted request for a payment. -/
structure PaymentRequest where
  source : Text := ""
  destination : Text := ""
  amount : Text := ""
  assetCode : Text := ""
  assetIssuer : Text := ""
  memoType : Text := ""
  memo : Text := ""
  extraMemo : Text := ""
  sender : Text := ""
deriving DecidableEq

namespace PaymentRequest

/-- The request whose field of each name is what `value` gives. -/
def ofFields (value : String → Text) : PaymentRequest where
  source := value "source"
  destination := value "destination"
  amount := value "amount"
  assetCode := value "asset_code"
  assetIssuer := value "asset_issuer"
  memoType := value "memo_type"
  memo := value "memo"
  extraMemo := value "extra_memo"
  sender := value "sender"

/-- The request of a form; of fields with one name the last counts. -/
def ofForm (form : Form) : PaymentRequest :=
  ofFields fun name => ((form.last? name).getD "" : String)

/-- The fields in their order, with their names. -/
def fields (r : PaymentRequest) : Fields :=
  [("source", r.source), ("destination", r.destination), ("amount", r.amount),
    ("asset_code", r.assetCode), ("asset_issuer", r.assetIssuer), ("memo_type", r.memoType),
    ("memo", r.memo), ("extra_memo", r.extraMemo), ("sender", r.sender)]

/-- The text that shows a request: all fields but the secret, with quoted values. -/
def display (r : PaymentRequest) : String :=
  "PaymentRequest(" ++ String.intercalate ", " ((r.fields.filter fun f => f.1 != "source").map
    fun f => f.1 ++ "=" ++ Quoted.quote f.2) ++ ")"

end PaymentRequest

end Remittance
