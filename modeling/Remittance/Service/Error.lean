import Remittance.Service.Response
import Remittance.Json.Shape

/-!
# Errors of the servers' answers

Why a lookup of a name, a question to the ledger or a request to the compliance server failed,
although the server answered.
-/

set_option autoImplicit false

namespace Remittance

/-- Why an identifier was not resolved. -/
inductive NamingError where
  | notAnAddress (identifier : Text)
  | noServer
  | status (code : Int)
  | body (e : BodyError)
  | record (e : Json.ShapeError)

/-- The wording of a naming error. -/
def NamingError.message : NamingError → String
  | .notAnAddress identifier =>
    "not an account id or federation address: " ++ Quoted.quote identifier
  | .noServer => "no federation server configured"
  | .status code => "federation server returned status " ++ Numeral.ofInt code
  | .body e => e.message
  | .record e => "unexpected federation response at " ++ e.message

/-- Why the ledger's server gave no usable answer. -/
inductive LedgerError where
  | accountMissing (accountId : Text)
  | loadStatus (code : Int)
  | submitStatus (code : Int)
  | body (e : BodyError)
  | shape (e : Json.ShapeError)
  | sequence (text : Text)

/-- The wording of a ledger error. -/
def LedgerError.message : LedgerError → Text
  | .accountMissing accountId => "account not found: " ++ accountId
  | .loadStatus code => ↑("unexpected status " ++ Numeral.ofInt code ++ " loading account")
  | .submitStatus code =>
    ↑("unexpected status " ++ Numeral.ofInt code ++ " submitting transaction")
  | .body e => e.message
  | .shape e => ↑("unexpected response at " ++ e.message)
  | .sequence text => ↑("cannot parse sequence number: " ++ Quoted.quote text)

/-- Why the compliance server gave no transaction. -/
inductive RelayError where
  | status (code : Int) (text : String)
  | body (e : BodyError)
  | shape (e : Json.ShapeError)

/-- The most characters of a body that are shown. -/
def RelayError.shown : Nat := 200

/-- The wording of a relay error. -/
def RelayError.message : RelayError → String
  | .status code text =>
    "compliance server returned status " ++ Numeral.ofInt code ++ ": " ++
      String.ofList (text.toList.take RelayError.shown)
  | .body e => e.message
  | .shape e => "unexpected compliance response at " ++ e.message

end Remittance
