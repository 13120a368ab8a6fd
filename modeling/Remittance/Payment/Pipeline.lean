import Remittance.Payment.AssetChoice
import Remittance.Payment.MemoPolicy
import Remittance.Payment.Outcome
import Remittance.Payment.Request
import Remittance.Payment.Call

/-!
# The payment pipeline

One run takes one request from its secret to the ledger's result. The stages come in a fixed order,
the first one that fails ends the run, and nothing later is tried. A request with a further memo
goes through the compliance relay, if there is one; every other request is assembled here. A run
keeps its trail and its records itself and shares nothing with other runs.
-/

set_option autoImplicit false

namespace Remittance

/-- What all runs of one pipeline have in common. -/
structure Pipeline where
  network : String
  foreign : Wire.Foreign := .none
  baseFee : Int := 100
  timeout : Int := 0
  clock : Binary64
  hasRelay : Bool

/-- What a run has done so far: the states it entered and the records it wrote, in order. -/
structure Progress where
  trail : List PaymentState
  records : List Record

/-- Why a run stops early. -/
inductive Stop where
  | cause (c : Cause)
  | interrupted (i : Interruption)
  | escaped (e : Escape)

/-- A part of a run. -/
abbrev Run := ExceptT Stop (StateT Progress (Dialogue Call Call.Answer))

namespace Run

/-- Enters a state. -/
def enter (s : PaymentState) : Run Unit :=
  modify fun p => { p with trail := p.trail ++ [s] }

/-- Writes a record. -/
def log (r : Record) : Run Unit :=
  modify fun p => { p with records := p.records ++ [r] }

/-- Fails with a cause, which is recorded. -/
def fail {α : Type} (c : Cause) : Run α := do
  log c.record
  throw (.cause c)

/-- The value of a check that may name a cause. -/
def ofExcept {α : Type} : Except Cause α → Run α
  | .ok a => pure a
  | .error c => fail c

/-- Makes a call; an interruption ends the run. -/
def call (c : Call) : Run (Except Failure c.Value) := do
  let reply ← (StateT.lift (Dialogue.once c) : StateT Progress (Dialogue Call Call.Answer) _)
  match reply with
  | .value a => pure (.ok a)
  | .failed f => pure (.error f)
  | .interrupted i => throw (.interrupted i)

/-- Makes a call of which every failure is a cause. -/
def require (c : Call) (cause : Failure → Cause) : Run c.Value := do
  match ← call c with
  | .ok a => pure a
  | .error f => fail (cause f)

/-- Runs a part from some progress. -/
def start {α : Type} (r : Run α) (p : Progress) :
    Dialogue Call Call.Answer (Except Stop α × Progress) :=
  (ExceptT.run r).run p

end Run

namespace Pipeline

/-- The destination that an identifier stands for, with a valid account id. -/
def resolve (identifier : Text) : Run Destination := do
  let destination : Destination ← Run.require (.resolve identifier) (.unresolvable identifier)
  if isAccountId destination.accountId then pure destination
  else Run.fail (.badAccountId identifier destination.accountId)

/-- The record of an account that is going to be created. -/
def creationRecord (accountId : Text) : Record :=
  ⟨.info, .asset, "Destination account does not exist, creating it", [(.accountId, accountId)]⟩

/-- The operation that moves an amount of an asset. The native asset is paid to an account that
exists and creates one that is known not to exist; any other failure of the lookup ends the run. -/
def transfer (asset : Asset) (accountId amount : Text) : Run Transfer := do
  match asset with
  | .credit .. => pure (.payment accountId amount asset)
  | .native =>
    match ← Run.call (.account accountId) with
    | .ok _ => pure (.payment accountId amount .native)
    | .error f =>
      if f.isMissingAccount then
        Run.log (creationRecord accountId)
        pure (.createAccount accountId amount)
      else Run.fail (.destinationLookup accountId f)

/-- The memo of a request. -/
def memo (request : PaymentRequest) (destination : Destination) : Run Memo :=
  match MemoPolicy.decide request.memoType request.memo destination with
  | .ok m => pure m
  | .error (.cause c) => Run.fail c
  | .error (.escape e) => throw (.escaped e)

/-- The snapshot of the account that pays. -/
def sourceSnapshot (accountId : Text) : Run Snapshot :=
  Run.require (.account accountId) fun f =>
    if f.isMissingAccount then .sourceMissing accountId else .sourceLookup accountId f

/-- The time bounds of a transaction: none without a timeout, and else from now on for so many
seconds. -/
def bounds (p : Pipeline) : Except Failure (Option TimeBounds) :=
  if p.timeout ≤ 0 then .ok none
  else match p.clock.truncate? with
    | some now =>
      match TimeBounds.ofInts 0 (now + p.timeout) with
      | .ok b => .ok (some b)
      | .error e => .error (.bounds e)
    | none => .error (.clock (if p.clock = .undefined then .undefined else .infinite))

/-- The envelope of a payment. -/
def envelope (p : Pipeline) (source : Text) (snapshot : Snapshot) (transfer : Transfer)
    (memo : Memo) : Except Failure Envelope := do
  let bounds ← p.bounds
  let parts : Parts :=
    { network := p.network, source, snapshot, transfer, memo, baseFee := p.baseFee, bounds }
  match build parts with
  | .ok e => pure e
  | .error e => throw (.ofBuild e)

/-- Assembles the transaction of a request. -/
def assemble (p : Pipeline) (request : PaymentRequest) (keypair : Keypair) : Run Envelope := do
  let destination ← resolve request.destination
  let asset ← Run.ofExcept (Asset.ofFields request.assetCode request.assetIssuer)
  let transfer ← transfer asset destination.accountId request.amount
  let memo ← memo request destination
  let source := keypair.accountId
  let snapshot ← sourceSnapshot source
  match p.envelope source snapshot transfer memo with
  | .ok e => pure e
  | .error f => Run.fail (.build f)

/-- What is sent to the compliance relay for a request. -/
def relayRequest (request : PaymentRequest) (keypair : Keypair) : RelayRequest where
  source := keypair.accountId
  sender := request.sender
  destination := request.destination
  amount := request.amount
  assetCode := request.assetCode
  assetIssuer := request.assetIssuer
  extraMemo := request.extraMemo

/-- Has the compliance relay make the transaction of a request. -/
def relay (p : Pipeline) (request : PaymentRequest) (keypair : Keypair) : Run Envelope := do
  let text : Text ← Run.require (.relay (relayRequest request keypair)) .relay
  match Envelope.ofTransactionText? p.foreign text p.network with
  | some e => pure e
  | none => Run.fail .relayedTransaction

/-- The key pair of a request's secret. -/
def source (request : PaymentRequest) : Run Keypair :=
  match Keypair.ofSecret? request.source with
  | some k => pure k
  | none => Run.fail .badSource

/-- Whether a request goes through the compliance relay. -/
def takesRelay (p : Pipeline) (request : PaymentRequest) : Bool :=
  !request.extraMemo.isEmpty && p.hasRelay

/-- The envelope of a request, made by the compliance relay or assembled here. -/
def make (p : Pipeline) (request : PaymentRequest) (keypair : Keypair) : Run Envelope :=
  if p.takesRelay request then do
    Run.enter .complianceRelay
    p.relay request keypair
  else do
    Run.enter .directAssembly
    p.assemble request keypair

/-- The signed envelope of a request. -/
def sign (p : Pipeline) (request : PaymentRequest) : Run Signed := do
  let keypair ← source request
  let envelope ← p.make request keypair
  Run.enter .signed
  Run.require (.sign keypair envelope) .signing

/-- All stages: the ledger's result and the hash of the transaction. -/
def stages (p : Pipeline) (request : PaymentRequest) : Run (Json × String) := do
  let signed ← p.sign request
  Run.enter .submitted
  let result : Json ← Run.require (.submit signed.envelope) (.submission signed.hash)
  pure (result, signed.hash)

/-- The record of a payment that went through. -/
def doneRecord (txHash : String) : Record :=
  ⟨.info, .pipeline, "Payment submitted", [(.txHash, txHash), (.state, PaymentState.done.name)]⟩

/-- The record of a payment that failed in a state. -/
def failedRecord (code : PaymentCode) (last : PaymentState) : Record :=
  ⟨.warning, .pipeline, "Payment failed", [(.errorCode, code.name), (.state, last.name)]⟩

/-- The progress of a run that failed. -/
def failed (p : Progress) (code : PaymentCode) : Progress :=
  { trail := p.trail ++ [.failed]
    records := p.records ++ [failedRecord code ((p.trail.getLast?).getD .start)] }

/-- The progress of a run that went through. -/
def done (p : Progress) (txHash : String) : Progress :=
  { trail := p.trail ++ [.done], records := p.records ++ [doneRecord txHash] }

/-- How a run ended, from how its stages ended. -/
def conclude : Except Stop (Json × String) × Progress → Ended × Progress
  | (.ok (result, txHash), p) =>
    let p := done p txHash
    (.outcome ⟨p.trail, .done result txHash⟩, p)
  | (.error (.cause c), p) =>
    let p := failed p c.code
    (.outcome ⟨p.trail, .failed c.error⟩, p)
  | (.error (.interrupted .deadline), p) =>
    let p := failed p .canceled
    (.outcome ⟨p.trail, .failed ⟨.canceled, none⟩⟩, p)
  | (.error (.interrupted .canceled), p) => (.canceled, failed p .canceled)
  | (.error (.escaped e), p) => (.escaped e, p)

/-- One run: a request from its secret to its end. -/
def submit (p : Pipeline) (request : PaymentRequest) :
    Dialogue Call Call.Answer (Ended × Progress) :=
  ((p.stages request).start ⟨[.start], []⟩).bind fun r => .done (conclude r)

end Pipeline

end Remittance
