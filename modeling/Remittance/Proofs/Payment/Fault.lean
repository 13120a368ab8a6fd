import Remittance.Proofs.Payment.Behaviour
import Remittance.Proofs.Payment.Stages

/-!
# Stages and their faults

The stages of a request as a list, and whether each one fails, said for each one by itself: from the
request, the pipeline and the behaviour of the collaborators. A stage whose parts are not there, as
an earlier one has failed, is not said to fail.
-/

set_option autoImplicit false

namespace Remittance

/-- A stage of a run: something that is checked, or somebody who is asked. -/
inductive Stage where
  | source
  | relay
  | relayedTransaction
  | resolution
  | accountId
  | assetFields
  | issuer
  | lookup
  | memo
  | load
  | build
  | signing
  | submission
deriving DecidableEq

/-- The codes with which a stage can fail. -/
def Stage.codes : Stage → List PaymentCode
  | .source => [.invalidSource]
  | .relay => [.serverError]
  | .relayedTransaction => [.serverError]
  | .resolution => [.unresolvableDestination]
  | .accountId => [.invalidDestination]
  | .assetFields => [.assetParameterMissing]
  | .issuer => [.invalidIssuer]
  | .lookup => [.serverError]
  | .memo => [.memoParameterMissing, .memoConflict, .invalidMemo, .unsupportedMemoType]
  | .load => [.sourceMissing, .serverError]
  | .build => [.malformedAssetCode, .invalidAmount, .invalidMemo, .serverError]
  | .signing => [.serverError]
  | .submission => [.serverError]

/-- The stages by which the compliance relay makes an envelope. -/
def relayStages : List Stage := [.relay, .relayedTransaction]

/-- The stages by which an envelope is assembled: the account that receives is looked up for the
native asset only. -/
def PaymentRequest.assemblyStages (request : PaymentRequest) : List Stage :=
  [.resolution, .accountId, .assetFields, .issuer] ++
    (if request.isNative then [.lookup] else []) ++ [.memo, .load, .build]

/-- The stages by which a request comes to an envelope. -/
def Pipeline.makingStages (p : Pipeline) (request : PaymentRequest) : List Stage :=
  if p.takesRelay request then relayStages else request.assemblyStages

/-- The stages of a request, in their order. -/
def Pipeline.order (p : Pipeline) (request : PaymentRequest) : List Stage :=
  .source :: (p.makingStages request ++ [.signing, .submission])

/-- The code of a failure, if there is one. -/
def failureCode {α : Type} (code : Failure → PaymentCode) : Except Failure α → Option PaymentCode
  | .ok _ => none
  | .error f => some (code f)

namespace Behaviour

variable (b : Behaviour) (p : Pipeline) (request : PaymentRequest)

/-- What the compliance relay answers to the request of a key pair. -/
def relayed (k : Keypair) : Except Failure Text := b 0 (.relay (Pipeline.relayRequest request k))

/-- What the resolver answers. -/
def resolved : Except Failure Destination := b 0 (.resolve request.destination)

/-- What the ledger answers when the account that receives is looked up. -/
def looked (d : Destination) : Except Failure Snapshot := b 1 (.account d.accountId)

/-- How many calls are made before the account that pays is loaded. -/
def loadTurn : Nat := if request.isNative then 2 else 1

/-- What the ledger answers when the account that pays is loaded. -/
def loaded (k : Keypair) : Except Failure Snapshot := b (loadTurn request) (.account k.accountId)

/-- The operation of a payment to a destination, if the ledger's answer lets it be chosen. -/
def transfer? (d : Destination) : Option Transfer :=
  if request.isNative then
    match b.looked d with
    | .ok _ => some (.payment d.accountId request.amount .native)
    | .error f =>
      if f.isMissingAccount then some (.createAccount d.accountId request.amount) else none
  else some (.payment d.accountId request.amount (.credit request.assetCode request.assetIssuer))

/-- What building the transaction comes to, if all that it takes is there. -/
def built? : Option (Except Failure Envelope) := do
  let k ← Keypair.ofSecret? request.source
  let d ← (b.resolved request).toOption
  let transfer ← b.transfer? request d
  let memo ← (MemoPolicy.decide request.memoType request.memo d).toOption
  let snapshot ← (b.loaded request k).toOption
  some (p.envelope k.accountId snapshot transfer memo)

/-- The envelope that is to be signed, if there is one. -/
def envelope? : Option Envelope :=
  if p.takesRelay request then do
    let k ← Keypair.ofSecret? request.source
    let text ← (b.relayed request k).toOption
    Envelope.ofTransactionText? p.foreign text p.network
  else do
    let result ← b.built? p request
    result.toOption

/-- How many calls are made before the signer is called. -/
def signTurn : Nat := if p.takesRelay request then 1 else loadTurn request + 1

/-- What the signer answers, if there is an envelope for it. -/
def signed? : Option (Except Failure Signed) := do
  let k ← Keypair.ofSecret? request.source
  let envelope ← b.envelope? p request
  some (b (signTurn p request) (.sign k envelope))

/-- What the ledger answers to a signed envelope, if there is one. -/
def submitted? : Option (Except Failure Json) := do
  let result ← b.signed? p request
  let signed ← result.toOption
  some (b (signTurn p request + 1) (.submit signed.envelope))

/-- The code with which a stage fails, if what it takes is there and it fails. -/
def fault : Stage → Option PaymentCode
  | .source => if (Keypair.ofSecret? request.source).isSome then none else some .invalidSource
  | .relay => do
    let k ← Keypair.ofSecret? request.source
    failureCode (fun _ => .serverError) (b.relayed request k)
  | .relayedTransaction => do
    let k ← Keypair.ofSecret? request.source
    let text ← (b.relayed request k).toOption
    if (Envelope.ofTransactionText? p.foreign text p.network).isSome then none
    else some .serverError
  | .resolution => failureCode (fun _ => .unresolvableDestination) (b.resolved request)
  | .accountId => do
    let d ← (b.resolved request).toOption
    if isAccountId d.accountId then none else some .invalidDestination
  | .assetFields =>
    if request.assetCode.isEmpty = request.assetIssuer.isEmpty then none
    else some .assetParameterMissing
  | .issuer =>
    if request.assetIssuer.isEmpty || isAccountId request.assetIssuer then none
    else some .invalidIssuer
  | .lookup => do
    let d ← (b.resolved request).toOption
    match b.looked d with
    | .ok _ => none
    | .error f => if f.isMissingAccount then none else some .serverError
  | .memo => do
    let d ← (b.resolved request).toOption
    match MemoPolicy.decide request.memoType request.memo d with
    | .error (.cause c) => some c.code
    | _ => none
  | .load => do
    let k ← Keypair.ofSecret? request.source
    failureCode (fun f => if f.isMissingAccount then .sourceMissing else .serverError)
      (b.loaded request k)
  | .build => do
    let result ← b.built? p request
    failureCode Failure.buildCode result
  | .signing => do
    let result ← b.signed? p request
    failureCode (fun _ => .serverError) result
  | .submission => do
    let result ← b.submitted? p request
    failureCode (fun _ => .serverError) result

/-- The call of a stage that asks somebody, if what it takes is there. -/
def call? : Stage → Option Call
  | .relay => do
    let k ← Keypair.ofSecret? request.source
    some (.relay (Pipeline.relayRequest request k))
  | .resolution => some (.resolve request.destination)
  | .lookup => do
    let d ← (b.resolved request).toOption
    some (.account d.accountId)
  | .load => do
    let k ← Keypair.ofSecret? request.source
    some (.account k.accountId)
  | .signing => do
    let k ← Keypair.ofSecret? request.source
    let envelope ← b.envelope? p request
    some (.sign k envelope)
  | .submission => do
    let result ← b.signed? p request
    let signed ← result.toOption
    some (.submit signed.envelope)
  | _ => none

end Behaviour

/-- The stages up to the first one at fault. -/
def Stage.ran (fault : Stage → Option PaymentCode) : List Stage → List Stage
  | [] => []
  | stage :: rest => if (fault stage).isSome then [stage] else stage :: ran fault rest

/-- A row of stages comes to a verdict and asks for some calls: the verdict is the first fault, and
the calls are those of the stages up to it. -/
structure Settled (fault : Stage → Option PaymentCode) (call? : Stage → Option Call)
    (stages : List Stage) (asked : List Call) (verdict : Option PaymentCode) : Prop where
  verdict_eq : stages.findSome? fault = verdict
  asked_eq : (Stage.ran fault stages).filterMap call? = asked

namespace Settled

variable {fault : Stage → Option PaymentCode} {call? : Stage → Option Call} {stage : Stage}
  {stages : List Stage} {asked : List Call} {verdict : Option PaymentCode} {code : PaymentCode}

/-- A row of no stages has no fault. -/
theorem nil : Settled fault call? [] [] none := ⟨rfl, rfl⟩

/-- A stage that fails without a call. -/
theorem stop (hfault : fault stage = some code) (hcall : call? stage = none) :
    Settled fault call? (stage :: stages) [] (some code) where
  verdict_eq := by rw [List.findSome?_cons_of_isSome (by simp [hfault]), hfault]
  asked_eq := by simp [Stage.ran, hfault, hcall]

/-- A stage that asks somebody and fails. -/
theorem stop_asking {c : Call} (hfault : fault stage = some code) (hcall : call? stage = some c) :
    Settled fault call? (stage :: stages) [c] (some code) where
  verdict_eq := by rw [List.findSome?_cons_of_isSome (by simp [hfault]), hfault]
  asked_eq := by simp [Stage.ran, hfault, hcall]

/-- A stage that is passed without a call. -/
theorem pass (hfault : fault stage = none) (hcall : call? stage = none)
    (hrest : Settled fault call? stages asked verdict) :
    Settled fault call? (stage :: stages) asked verdict where
  verdict_eq := by rw [List.findSome?_cons_of_isNone (by simp [hfault]), hrest.verdict_eq]
  asked_eq := by simp [Stage.ran, hfault, hcall, hrest.asked_eq]

/-- A stage that asks somebody and is passed. -/
theorem pass_asking {c : Call} (hfault : fault stage = none) (hcall : call? stage = some c)
    (hrest : Settled fault call? stages asked verdict) :
    Settled fault call? (stage :: stages) (c :: asked) verdict where
  verdict_eq := by rw [List.findSome?_cons_of_isNone (by simp [hfault]), hrest.verdict_eq]
  asked_eq := by simp [Stage.ran, hfault, hcall, hrest.asked_eq]

end Settled

namespace Pipeline

variable {p : Pipeline} {request : PaymentRequest} {b : Behaviour} {d : Destination}

/-- A failure to build counts in one of four ways. -/
theorem buildCode_mem (f : Failure) : f.buildCode ∈ Stage.build.codes := by
  have hmessage : ∀ isValue message,
      Failure.codeOfMessage isValue message ∈ Stage.build.codes := by
    intro isValue message
    unfold Failure.codeOfMessage
    split
    · simp [Stage.codes]
    · split
      · simp [Stage.codes]
      · split <;> simp [Stage.codes]
  unfold Failure.buildCode
  split
  · rename_i code message
    cases code <;> simp [Failure.codeOfBuild, Stage.codes]
  · split
    · simp [Stage.codes]
    · simp [Stage.codes]
    · simp [Stage.codes]
    · exact hmessage _ _
    · exact hmessage _ _

/-- A memo is refused in one of four ways. -/
theorem memo_code_mem {type value : Text} {c : Cause}
    (hdecide : MemoPolicy.decide type value d = .error (.cause c)) :
    c.code ∈ Stage.memo.codes := by
  have hparse : ∀ type value, MemoPolicy.parse type value = .error (.cause c) →
      c.code ∈ Stage.memo.codes := by
    intro type value hparse
    unfold MemoPolicy.parse MemoPolicy.parseId MemoPolicy.parseText MemoPolicy.parseHash at hparse
    repeat' split at hparse
    all_goals cases hparse
    all_goals simp [Stage.codes, Cause.code]
  unfold MemoPolicy.decide at hdecide
  split at hdecide
  · cases hdecide
    simp [Stage.codes, Cause.code]
  · split at hdecide
    · split at hdecide
      · exact hparse _ _ hdecide
      · cases hdecide
        simp [Stage.codes, Cause.code]
    · exact hparse _ _ hdecide

/-- A code that is given is that of a failure. -/
theorem failureCode_eq_some {α : Type} {code : Failure → PaymentCode} {x : Except Failure α}
    {c : PaymentCode} (heq : failureCode code x = some c) : ∃ f, code f = c := by
  cases x with
  | ok a => cases heq
  | error f => exact ⟨f, Option.some.inj heq⟩

/-- The code of a check that is not passed. -/
theorem code_of_check {condition : Prop} [Decidable condition] {code c : PaymentCode}
    (heq : (if condition then none else some code) = some c) : code = c := by
  split at heq
  · cases heq
  · exact Option.some.inj heq

/-- A stage fails with one of its codes. -/
theorem fault_mem_codes {stage : Stage} {code : PaymentCode}
    (hfault : b.fault p request stage = some code) : code ∈ stage.codes := by
  cases stage with
  | source =>
    obtain rfl := code_of_check hfault
    exact List.mem_singleton_self _
  | relay =>
    obtain ⟨k, -, hrelay⟩ := Option.bind_eq_some_iff.mp hfault
    obtain ⟨f, rfl⟩ := failureCode_eq_some hrelay
    exact List.mem_singleton_self _
  | relayedTransaction =>
    obtain ⟨k, -, hrest⟩ := Option.bind_eq_some_iff.mp hfault
    obtain ⟨text, -, hcheck⟩ := Option.bind_eq_some_iff.mp hrest
    obtain rfl := code_of_check hcheck
    exact List.mem_singleton_self _
  | resolution =>
    obtain ⟨f, rfl⟩ := failureCode_eq_some hfault
    exact List.mem_singleton_self _
  | accountId =>
    obtain ⟨d, -, hcheck⟩ := Option.bind_eq_some_iff.mp hfault
    obtain rfl := code_of_check hcheck
    exact List.mem_singleton_self _
  | assetFields =>
    obtain rfl := code_of_check hfault
    exact List.mem_singleton_self _
  | issuer =>
    obtain rfl := code_of_check hfault
    exact List.mem_singleton_self _
  | lookup =>
    obtain ⟨d, -, hlooked⟩ := Option.bind_eq_some_iff.mp hfault
    split at hlooked
    · cases hlooked
    · obtain rfl := code_of_check hlooked
      exact List.mem_singleton_self _
  | memo =>
    obtain ⟨d, -, hmemo⟩ := Option.bind_eq_some_iff.mp hfault
    split at hmemo
    · rename_i c hdecide
      cases hmemo
      exact memo_code_mem hdecide
    · cases hmemo
  | load =>
    obtain ⟨k, -, hload⟩ := Option.bind_eq_some_iff.mp hfault
    obtain ⟨f, rfl⟩ := failureCode_eq_some hload
    split <;> simp [Stage.codes]
  | build =>
    obtain ⟨result, -, hbuild⟩ := Option.bind_eq_some_iff.mp hfault
    obtain ⟨f, rfl⟩ := failureCode_eq_some hbuild
    exact buildCode_mem f
  | signing =>
    obtain ⟨result, -, hsign⟩ := Option.bind_eq_some_iff.mp hfault
    obtain ⟨f, rfl⟩ := failureCode_eq_some hsign
    exact List.mem_singleton_self _
  | submission =>
    obtain ⟨result, -, hsubmit⟩ := Option.bind_eq_some_iff.mp hfault
    obtain ⟨f, rfl⟩ := failureCode_eq_some hsubmit
    exact List.mem_singleton_self _

end Pipeline

end Remittance
