import Remittance.Payment.Failure
import Remittance.Journal.Record

/-!
# Causes

Why a payment fails, stage by stage. A cause decides the code that the caller sees, the detail that
stays inside, and the record that goes into the journal.
-/

set_option autoImplicit false

namespace Remittance

/-- Why a payment fails. -/
inductive Cause where
  | badSource
  | relay (f : Failure)
  | relayedTransaction
  | unresolvable (identifier : Text) (f : Failure)
  | badAccountId (identifier accountId : Text)
  | assetHalf
  | badIssuer (issuer : Text)
  | destinationLookup (accountId : Text) (f : Failure)
  | memoHalf
  | memoConflict
  | memoId (value : Text)
  | memoHash (value : Text)
  | memoType (word : Text)
  | sourceMissing (accountId : Text)
  | sourceLookup (accountId : Text) (f : Failure)
  | build (f : Failure)
  | signing (f : Failure)
  | submission (txHash : String) (f : Failure)

namespace Cause

/-- The code that the caller sees. -/
def code : Cause → PaymentCode
  | .badSource => .invalidSource
  | .relay _ => .serverError
  | .relayedTransaction => .serverError
  | .unresolvable .. => .unresolvableDestination
  | .badAccountId .. => .invalidDestination
  | .assetHalf => .assetParameterMissing
  | .badIssuer _ => .invalidIssuer
  | .destinationLookup .. => .serverError
  | .memoHalf => .memoParameterMissing
  | .memoConflict => .memoConflict
  | .memoId _ => .invalidMemo
  | .memoHash _ => .invalidMemo
  | .memoType _ => .unsupportedMemoType
  | .sourceMissing _ => .sourceMissing
  | .sourceLookup .. => .serverError
  | .build f => f.buildCode
  | .signing _ => .serverError
  | .submission .. => .serverError

/-- The failure behind a cause, where there is one. -/
def failure? : Cause → Option Failure
  | .relay f => some f
  | .relayedTransaction => some .transaction
  | .unresolvable _ f => some f
  | .destinationLookup _ f => some f
  | .sourceLookup _ f => some f
  | .build f => some f
  | .signing f => some f
  | .submission _ f => some f
  | _ => none

/-- The error of a cause; its detail is the text of the failure behind it. -/
def error (c : Cause) : PaymentError := ⟨c.code, c.failure?.map Failure.message⟩

/-- The record of a cause. -/
def record : Cause → Record
  | .badSource => ⟨.info, .pipeline, "Invalid source parameter", []⟩
  | .relay f =>
    ⟨.error, .pipeline, "Error sending request to compliance server", [(.error, f.message)]⟩
  | .relayedTransaction =>
    ⟨.error, .pipeline, "Error decoding transaction returned by compliance server",
      [(.error, Failure.transaction.message)]⟩
  | .unresolvable identifier f =>
    ⟨.info, .destination, "Cannot resolve address",
      [(.destination, identifier), (.error, f.message)]⟩
  | .badAccountId identifier accountId =>
    ⟨.info, .destination, "Invalid account id in destination",
      [(.destination, identifier), (.accountId, accountId)]⟩
  | .assetHalf => ⟨.info, .asset, "Missing asset param", []⟩
  | .badIssuer issuer =>
    ⟨.info, .asset, "Invalid asset_issuer parameter", [(.assetIssuer, issuer)]⟩
  | .destinationLookup accountId f =>
    ⟨.error, .asset, "Error loading destination account",
      [(.accountId, accountId), (.error, f.message)]⟩
  | .memoHalf => ⟨.info, .memo, "Missing one of memo params", []⟩
  | .memoConflict =>
    ⟨.info, .memo, "Memo given in request but destination mandates its own memo", []⟩
  | .memoId value =>
    ⟨.info, .memo, "Cannot convert memo_id value to uint64", [(.memo, value)]⟩
  | .memoHash value => ⟨.info, .memo, "Cannot decode hash memo value", [(.memo, value)]⟩
  | .memoType word => ⟨.info, .memo, "Not supported memo type", [(.memoType, word)]⟩
  | .sourceMissing accountId =>
    ⟨.info, .pipeline, "Source account does not exist", [(.accountId, accountId)]⟩
  | .sourceLookup accountId f =>
    ⟨.error, .pipeline, "Cannot load source account",
      [(.accountId, accountId), (.error, f.message)]⟩
  | .build f =>
    ⟨.info, .pipeline, "Transaction builder error",
      [(.errorCode, f.buildCode.name), (.error, f.message)]⟩
  | .signing f =>
    ⟨.error, .pipeline, "Cannot sign transaction envelope", [(.error, f.message)]⟩
  | .submission txHash f =>
    ⟨.error, .pipeline, "Error submitting transaction",
      [(.txHash, txHash), (.error, f.message)]⟩

end Cause

end Remittance
