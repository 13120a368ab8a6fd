import Remittance.Text.CodePoint

/-!
# Payment errors

The closed set of errors that a caller can see, each with a word for the wire, a fixed message and
an HTTP status. The detail of an error is for the journal and never leaves with the answer.
-/

set_option autoImplicit false

namespace Remittance

/-- What is wrong with a payment, as the caller is told. -/
inductive PaymentCode where
  | invalidSource
  | unresolvableDestination
  | invalidDestination
  | assetParameterMissing
  | invalidIssuer
  | memoParameterMissing
  | memoConflict
  | invalidMemo
  | unsupportedMemoType
  | malformedAssetCode
  | invalidAmount
  | sourceMissing
  | serverError
  | canceled
deriving DecidableEq

namespace PaymentCode

/-- All codes. -/
def all : List PaymentCode :=
  [.invalidSource, .unresolvableDestination, .invalidDestination, .assetParameterMissing,
    .invalidIssuer, .memoParameterMissing, .memoConflict, .invalidMemo, .unsupportedMemoType,
    .malformedAssetCode, .invalidAmount, .sourceMissing, .serverError, .canceled]

/-- The word for the wire. -/
def name : PaymentCode → String
  | .invalidSource => "invalid_source"
  | .unresolvableDestination => "cannot_resolve_destination"
  | .invalidDestination => "invalid_destination"
  | .assetParameterMissing => "asset_missing_param"
  | .invalidIssuer => "invalid_issuer"
  | .memoParameterMissing => "memo_missing_param"
  | .memoConflict => "cannot_use_memo"
  | .invalidMemo => "invalid_memo"
  | .unsupportedMemoType => "unsupported_memo_type"
  | .malformedAssetCode => "malformed_asset_code"
  | .invalidAmount => "invalid_amount"
  | .sourceMissing => "source_not_exist"
  | .serverError => "server_error"
  | .canceled => "canceled"

/-- The code with a word. -/
def ofName? (s : String) : Option PaymentCode := all.find? fun c => c.name == s

/-- The fixed message. -/
def message : PaymentCode → String
  | .invalidSource => "source parameter is invalid"
  | .unresolvableDestination => "cannot resolve destination"
  | .invalidDestination => "destination resolved to an invalid account id"
  | .assetParameterMissing => "asset_code and asset_issuer must be given together"
  | .invalidIssuer => "asset_issuer parameter is invalid"
  | .memoParameterMissing => "memo_type and memo must be given together"
  | .memoConflict => "destination requires its own memo; memo cannot be set"
  | .invalidMemo => "memo is invalid"
  | .unsupportedMemoType => "memo_type is not supported"
  | .malformedAssetCode => "asset_code is malformed"
  | .invalidAmount => "amount is invalid"
  | .sourceMissing => "source account does not exist"
  | .serverError => "internal server error"
  | .canceled => "request was canceled before completion"

/-- The HTTP status. -/
def status : PaymentCode → Nat
  | .serverError => 500
  | .canceled => 504
  | _ => 400

end PaymentCode

/-- A payment error, perhaps with a detail. -/
structure PaymentError where
  code : PaymentCode
  detail : Option Text
deriving DecidableEq

/-- The text of an error: its detail if there is one, and else the fixed message. -/
def PaymentError.text (e : PaymentError) : Text :=
  match e.detail with
  | some detail => if detail.isEmpty then ↑e.code.message else detail
  | none => e.code.message

end Remittance
