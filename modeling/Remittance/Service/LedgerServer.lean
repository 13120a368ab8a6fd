import Remittance.Ledger.Build
import Remittance.Service.Exchange

/-!
# The ledger's server

The server tells the sequence number of an account and takes signed envelopes. That an account does
not exist is a definite answer of its own; a transaction that the ledger refuses is answered like
one that it accepts, with a result.
-/

set_option autoImplicit false

namespace Remittance.LedgerServer

/-- The shape of the description of an account. -/
def accountShape : Json.Shape where
  required := ["sequence"]
  rules := [{ name := "sequence", kinds := [.text], nonEmpty := true }]

/-- The shape of the result of a submission: any object. -/
def resultShape : Json.Shape := ⟨[], []⟩

/-- What a body that cannot be used means. -/
def errorOf : RecordError → LedgerError
  | .body e => .body e
  | .shape e => .shape e

/-- The members of a body of a shape, or what the ledger's server did wrong. -/
def members (r : Response) (shape : Json.Shape) : Except Failure Json.Members :=
  (r.members shape).mapError (.ofUnread fun e => .ledger (errorOf e))

/-- The sequence number that a text spells. -/
def readSequence (text : Text) : Except Failure Nat :=
  match text.string? with
  | some s =>
    if Numeral.isNumeral s.toList then (Numeral.read s.toList).mapError .digits
    else .error (.ledger (.sequence text))
  | none => .error (.ledger (.sequence text))

/-- The snapshot that a response gives of an account. -/
def readAccount (accountId : String) (r : Response) : Except Failure Snapshot :=
  if r.status = 404 then .error (.ledger (.accountMissing accountId))
  else if r.status ≠ 200 then .error (.ledger (.loadStatus r.status))
  else do
    let members ← members r accountShape
    let sequence ← readSequence (((members.get? "sequence").bind Json.text?).getD "")
    pure ⟨accountId, sequence⟩

/-- The ledger's result in a response: the body of an acceptance (200) or a refusal (400). -/
def readResult (r : Response) : Except Failure Json :=
  if r.status = 200 ∨ r.status = 400 then (members r resultShape).map .object
  else .error (.ledger (.submitStatus r.status))

/-- The URL of an account; the id is one segment of the path. -/
def accountUrl (url accountId : String) : String :=
  Http.withoutLastSlashes url ++ "/accounts/" ++ Percent.encodeSegment accountId

/-- Asks for the snapshot of an account. There is no URL for a torn id. -/
def account (url : String) (accountId : Text) : Exchange Snapshot :=
  match accountId.string with
  | .error e => .of (.failed (.torn e))
  | .ok accountId => .once (.get (accountUrl url accountId) none) (readAccount accountId)

/-- An account with a whole id is asked for at its address. -/
theorem account_eq_once (url accountId : String) :
    account url accountId =
      .once (.get (accountUrl url accountId) none) (readAccount accountId) := by
  rw [account, Text.string_ofString]

/-- Submits an envelope. -/
def submit (url envelope : String) : Exchange Json :=
  .once (.post (Http.withoutLastSlashes url ++ "/transactions") [("tx", envelope)]) readResult

end Remittance.LedgerServer
