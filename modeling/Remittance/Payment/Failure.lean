import Remittance.Http.Request
import Remittance.Ledger.Build
import Remittance.Service.Error
import Remittance.Payment.Error

/-!
# Failures

What can go wrong where the payment pipeline calls something else, and the one place that says what
a failure to build a transaction means to the caller. Most failures are known causes. A foreign one
is known by a label, a text, and the family that decides how it counts.
-/

set_option autoImplicit false

namespace Remittance

/-- How a foreign failure counts when a build failed with it. -/
inductive Family where
  | assetCode
  | memo
  | decimal
  | value
  | other
deriving DecidableEq

/-- Why a clock reading is no time. -/
inductive ClockError where
  | undefined
  | infinite
deriving DecidableEq

/-- The wording of a clock error. -/
def ClockError.message : ClockError → String
  | .undefined => "cannot convert float NaN to integer"
  | .infinite => "cannot convert float infinity to integer"

/-- Something that went wrong where the pipeline called something else. -/
inductive Failure where
  | naming (e : NamingError)
  | ledger (e : LedgerError)
  | relay (e : RelayError)
  | digits (e : Numeral.TooLong)
  | large (e : Numeral.TooLarge)
  | torn (e : Text.Torn)
  | nested (e : Json.Nested)
  | build (code : Build.Code) (message : Text)
  | admission (e : Admission.Rejection)
  | bounds (e : TimeBounds.Rejection)
  | clock (e : ClockError)
  | address (e : Http.Url.Fault)
  | keypair (e : Keypair.Rejection)
  | signing (e : SigningError)
  | transaction
  | payment (e : PaymentError)
  | foreign (label : String) (family : Family) (message : Text)

namespace Failure

/-- The text of a failure. -/
def message : Failure → Text
  | .naming e => e.message
  | .ledger e => e.message
  | .relay e => e.message
  | .digits e => e.message
  | .large e => e.message
  | .torn e => e.message
  | .nested e => e.message
  | .build _ message => message
  | .admission e => e.message
  | .bounds e => e.message
  | .clock e => e.message
  | .address e => e.message
  | .keypair e => e.message
  | .signing e => e.message
  | .transaction => "transaction xdr: "
  | .payment e => e.text
  | .foreign _ _ message => message

/-- The family of a failure. -/
def family : Failure → Family
  | .digits _ => .value
  | .large _ => .value
  | .torn _ => .value
  | .build .. => .value
  | .admission .unreadableAmount => .decimal
  | .admission .assetCode => .assetCode
  | .admission .memoText => .memo
  | .admission _ => .value
  | .bounds _ => .value
  | .clock .undefined => .value
  | .address (.noScheme _) => .value
  | .keypair _ => .value
  | .signing (.tooManySignatures _) => .value
  | .transaction => .value
  | .foreign _ family _ => family
  | _ => .other

/-- Whether a failure says that an account does not exist. -/
def isMissingAccount : Failure → Bool
  | .ledger (.accountMissing _) => true
  | _ => false

/-- The failure of something that was not read. -/
def ofUnread {E : Type} (f : E → Failure) : Json.Unread E → Failure
  | .error e => f e
  | .nested e => .nested e

/-- The failure of a request that did not go over the wire. -/
def ofRequest : Http.Request.Fault → Failure
  | .address e => .address e
  | .torn e => .torn e

/-- The failure of a rejected build. -/
def ofBuild : Build.Rejection → Failure
  | .fault f => .build f.code f.message
  | .digits e => .digits e
  | .large e => .large e
  | .admission e => .admission e

/-- Whether a text occurs inside another. -/
def occursIn (part : List CodePoint) : List CodePoint → Bool
  | [] => part.isEmpty
  | c :: rest => part.isPrefixOf (c :: rest) || occursIn part rest

/-- Whether a message has a part. -/
def mentions (message part : Text) : Bool := occursIn part.codes message.codes

/-- What a rejection means to the caller. -/
def codeOfBuild : Build.Code → PaymentCode
  | .assetCode => .malformedAssetCode
  | .amount => .invalidAmount
  | .memoTooLong => .invalidMemo
  | _ => .serverError

/-- What a message means to the caller, where only the message tells. -/
def codeOfMessage (isValue : Bool) (message : Text) : PaymentCode :=
  if message = "Asset code length is invalid" then .malformedAssetCode
  else if mentions message "cannot parse amount" then .invalidAmount
  else if isValue && (mentions message "argument \"amount\"" ||
      mentions message "argument \"starting_balance\"") then .invalidAmount
  else .serverError

/-- What a failure to build a transaction means to the caller. -/
def buildCode (f : Failure) : PaymentCode :=
  match f with
  | .build code _ => codeOfBuild code
  | f => match f.family with
    | .assetCode => .malformedAssetCode
    | .memo => .invalidMemo
    | .decimal => .invalidAmount
    | .value => codeOfMessage true f.message
    | .other => codeOfMessage false f.message

end Failure

/-- What no stage of a payment takes care of: a numeral with too many digits, or a torn text of
which octets are made. -/
inductive Escape where
  | digits (e : Numeral.TooLong)
  | torn (e : Text.Torn)
deriving DecidableEq

/-- The wording of what no stage takes care of. -/
def Escape.message : Escape → String
  | .digits e => e.message
  | .torn e => e.message

/-- Why nothing came back from a call: the time for the run was over, or the caller gave up. -/
inductive Interruption where
  | deadline
  | canceled
deriving DecidableEq

/-- What comes back from a call. -/
inductive Reply (α : Type) where
  | value (a : α)
  | failed (f : Failure)
  | interrupted (i : Interruption)

/-- The reply whose value is put through a further step. -/
def Reply.andThen {α β : Type} (r : Reply α) (f : α → Except Failure β) : Reply β :=
  match r with
  | .value a =>
    match f a with
    | .ok b => .value b
    | .error e => .failed e
  | .failed e => .failed e
  | .interrupted i => .interrupted i

end Remittance
