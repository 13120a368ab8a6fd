import Remittance.Ledger.Amount
import Remittance.Ledger.Admission
import Remittance.Ledger.Envelope

/-!
# Building payments

A payment is built from its parts into an unsigned envelope with one operation. The parts are
checked in a fixed order, and the first one at fault is named. The sequence number is the one after
the snapshot's, the fee is that of one operation, and time bounds are always present.
-/

set_option autoImplicit false

namespace Remittance

/-- What is known of an account at one time: its id and its current sequence number. -/
structure Snapshot where
  accountId : Text
  sequence : Int
deriving DecidableEq

/-- The sequence number of the account's next transaction. -/
def Snapshot.next (s : Snapshot) : Int := s.sequence + 1

/-- The operation of a payment, with its parts as they were given. -/
inductive Transfer where
  | createAccount (destination amount : Text)
  | payment (destination amount : Text) (asset : Asset)
deriving DecidableEq

namespace Transfer

/-- The account that receives. -/
def destination : Transfer → Text
  | .createAccount d _ => d
  | .payment d _ _ => d

/-- The amount that is moved. -/
def amount : Transfer → Text
  | .createAccount _ a => a
  | .payment _ a _ => a

/-- The asset that is moved; an account is created with the native one. -/
def asset : Transfer → Asset
  | .createAccount .. => .native
  | .payment _ _ a => a

end Transfer

/-- The parts of a transaction. -/
structure Parts where
  network : String
  source : Text
  snapshot : Snapshot
  transfer : Transfer
  memo : Memo
  baseFee : Int
  bounds : Option TimeBounds

namespace Build

/-- The kinds of reason for which a transaction cannot be built. -/
inductive Code where
  | assetCode
  | amount
  | memoTooLong
  | account
  | sequence
  | network
deriving DecidableEq

/-- The word for a kind of reason. -/
def Code.name : Code → String
  | .assetCode => "ASSET_CODE_INVALID"
  | .amount => "AMOUNT_INVALID"
  | .memoTooLong => "MEMO_TOO_LONG"
  | .account => "ACCOUNT_INVALID"
  | .sequence => "SEQUENCE_INVALID"
  | .network => "NETWORK_MISSING"

/-- All kinds of reason. -/
def Code.all : List Code := [.assetCode, .amount, .memoTooLong, .account, .sequence, .network]

/-- The kind of reason with a name. -/
def Code.ofName? (name : String) : Option Code := Code.all.find? fun c => c.name == name

/-- Which account id of a transaction is meant. -/
inductive Role where
  | source
  | destination
  | issuer
deriving DecidableEq

/-- The words for a role. -/
def Role.name : Role → String
  | .source => "source account"
  | .destination => "destination"
  | .issuer => "asset issuer"

/-- What is at fault in the parts of a transaction. -/
inductive Fault where
  | networkMissing
  | account (role : Role)
  | snapshotOwner
  | sequence (next : String)
  | assetCode
  | amountUnreadable (text : Text)
  | amountRange (text : Text)
  | memoTooLong (count : Nat)
deriving DecidableEq

/-- The kind of a fault. -/
def Fault.code : Fault → Code
  | .networkMissing => .network
  | .account _ => .account
  | .snapshotOwner => .account
  | .sequence _ => .sequence
  | .assetCode => .assetCode
  | .amountUnreadable _ => .amount
  | .amountRange _ => .amount
  | .memoTooLong _ => .memoTooLong

/-- The wording of a fault. -/
def Fault.message : Fault → String
  | .networkMissing => "network passphrase must be non-empty"
  | .account role => role.name ++ " is not a valid account id"
  | .snapshotOwner => "account snapshot does not belong to the source account"
  | .sequence next => "sequence out of range: " ++ next
  | .assetCode => "Asset code length is invalid"
  | .amountUnreadable text => (Amount.Rejection.unreadable text).message
  | .amountRange text => (Amount.Rejection.outOfRange text).message
  | .memoTooLong count => "text memo exceeds 28 bytes (got " ++ Numeral.ofNat count ++ ")"

/-- Why a transaction cannot be built: a fault of a part, an amount with too many digits, a sequence
number with too many digits to be named, or a part that the ledger does not admit. -/
inductive Rejection where
  | fault (f : Fault)
  | digits (e : Numeral.TooLong)
  | large (e : Numeral.TooLarge)
  | admission (e : Admission.Rejection)
deriving DecidableEq

/-- The rejection for an amount that is none. -/
def Rejection.ofAmount : Amount.Rejection → Rejection
  | .unreadable text => .fault (.amountUnreadable text)
  | .outOfRange text => .fault (.amountRange text)
  | .digits e => .digits e

/-- Finds the fault `f` unless the condition holds. -/
def require (condition : Bool) (f : Fault) : Except Rejection Unit :=
  if condition then .ok () else .error (.fault f)

/-- The largest sequence number of a transaction: `2^63 - 1`. -/
def maxSequence : Int := 0x7FFFFFFFFFFFFFFF

/-- The check of the sequence number of a snapshot. The wording of the fault shows the next one. -/
def checkSequence (s : Snapshot) : Except Rejection Unit :=
  if 0 ≤ s.sequence ∧ s.next ≤ maxSequence then .ok ()
  else match Numeral.write s.next with
    | .ok shown => .error (.fault (.sequence shown))
    | .error e => .error (.large e)

/-- The check of an asset code. -/
def checkAssetCode (code : Text) : Except Rejection Unit :=
  require (AssetCode.ofText? code).isSome .assetCode

/-- The check of an asset: its code before its issuer. -/
def checkAsset : Asset → Except Rejection Unit
  | .native => .ok ()
  | .credit code issuer => do
    checkAssetCode code
    require (isAccountId issuer) (.account .issuer)

/-- The check of an amount. -/
def checkAmount (text : Text) : Except Rejection Unit :=
  match Amount.parse text with
  | .ok _ => .ok ()
  | .error e => .error (.ofAmount e)

/-- The check of a memo. -/
def checkMemo : Memo → Except Rejection Unit
  | .text octets => require (octets.length ≤ Memo.maxText) (.memoTooLong octets.length)
  | _ => .ok ()

/-- The check of all parts, in their order. -/
def check (p : Parts) : Except Rejection Unit := do
  require (!p.network.isEmpty) .networkMissing
  require (isAccountId p.source) (.account .source)
  require (p.snapshot.accountId == p.source) .snapshotOwner
  checkSequence p.snapshot
  require (isAccountId p.transfer.destination) (.account .destination)
  checkAsset p.transfer.asset
  checkAmount p.transfer.amount
  checkMemo p.memo

/-- The ledger's form of an asset. -/
def ledgerAsset : Asset → Except Admission.Rejection LedgerAsset
  | .native => .ok .native
  | .credit code issuer => Admission.asset code issuer

/-- The ledger's form of an operation. -/
def ledgerAction : Transfer → Except Admission.Rejection (Action LedgerAsset)
  | .createAccount destination amount => do
    let key ← Admission.account destination
    let n ← Admission.amount .startingBalance amount
    pure (.createAccount key (Int64.ofNat n))
  | .payment destination amount asset => do
    let a ← ledgerAsset asset
    let party ← Admission.party destination
    let n ← Admission.amount .payment amount
    pure (.payment party a (Int64.ofNat n))

/-- The transaction of parts that the ledger admits. -/
def assemble (p : Parts) : Except Admission.Rejection Transaction := do
  let source ← Admission.account p.source
  let action ← ledgerAction p.transfer
  let memo ← Admission.memo p.memo
  pure {
    source := Party.ofKey source
    fee := p.baseFee
    sequence := Int64.ofInt p.snapshot.next
    conditions := .ofTime (some (p.bounds.getD .always))
    memo
    operations := ⟨[⟨none, action⟩], by simp⟩
    ending := none }

end Build

/-- The unsigned envelope of a transaction with the given parts, or the first part at fault. -/
def build (p : Parts) : Except Build.Rejection Envelope := do
  Build.check p
  match Build.assemble p with
  | .ok t => pure (.unsigned t p.network)
  | .error e => throw (.admission e)

end Remittance
