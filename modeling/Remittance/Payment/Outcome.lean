import Remittance.Json.Value
import Remittance.Payment.Failure
import Remittance.Journal.Record

/-!
# Outcomes

The states that a payment goes through, and the record of one run: all states in order, and how it
ended.
-/

set_option autoImplicit false

namespace Remittance

/-- A state of a payment. -/
inductive PaymentState where
  | start
  | complianceRelay
  | directAssembly
  | signed
  | submitted
  | done
  | failed
deriving DecidableEq

namespace PaymentState

/-- The word for a state. -/
def name : PaymentState → String
  | .start => "START"
  | .complianceRelay => "COMPLIANCE_RELAY"
  | .directAssembly => "DIRECT_ASSEMBLY"
  | .signed => "SIGNED"
  | .submitted => "SUBMITTED"
  | .done => "DONE"
  | .failed => "FAILED"

/-- Whether a state tells which way the payment takes. -/
def isPath : PaymentState → Bool
  | .complianceRelay => true
  | .directAssembly => true
  | _ => false

end PaymentState

/-- How a run ended: with the ledger's result and the hash of the transaction, or with an error. -/
inductive Ending where
  | done (result : Json) (txHash : String)
  | failed (error : PaymentError)

/-- The record of a run. -/
structure Outcome where
  trail : List PaymentState
  ending : Ending

namespace Outcome

/-- The last state. -/
def state (o : Outcome) : PaymentState :=
  match o.ending with
  | .done .. => .done
  | .failed _ => .failed

/-- Whether the payment went through. -/
def ok (o : Outcome) : Bool := decide (o.state = .done)

/-- The way that the payment took, if it got so far. -/
def path (o : Outcome) : Option PaymentState := o.trail.find? PaymentState.isPath

/-- The ledger's result. -/
def result (o : Outcome) : Option Json :=
  match o.ending with
  | .done result _ => some result
  | .failed _ => none

/-- The error. -/
def error (o : Outcome) : Option PaymentError :=
  match o.ending with
  | .done .. => none
  | .failed error => some error

/-- The hash of the submitted transaction. -/
def txHash (o : Outcome) : Option String :=
  match o.ending with
  | .done _ txHash => some txHash
  | .failed _ => none

end Outcome

/-- How a run came to its end: with an outcome, given up by the caller, or stopped by something that
no stage takes care of. -/
inductive Ended where
  | outcome (o : Outcome)
  | canceled
  | escaped (e : Escape)

end Remittance
