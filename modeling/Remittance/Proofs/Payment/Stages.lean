import Remittance.Proofs.Payment.Part

/-!
# Stages of a run

How each stage of a payment goes. A stage that calls somebody makes one call and passes a verdict on
the reply; a stage that only checks passes its verdict at once. A verdict is a value with which the
run goes on, or the reason for which it stops.
-/

set_option autoImplicit false

namespace Remittance

/-- Whether a request moves the native asset: it names neither a code nor an issuer. -/
def PaymentRequest.isNative (request : PaymentRequest) : Bool :=
  request.assetCode.isEmpty && request.assetIssuer.isEmpty

/-- The progress after an operation was chosen: the creation of an account has been recorded. -/
def Progress.chosen (p : Progress) : Transfer → Progress
  | .createAccount accountId _ => p.noted (Pipeline.creationRecord accountId)
  | .payment .. => p

/-- The choice of an operation enters no state. -/
@[simp] theorem Progress.trail_chosen (p : Progress) (t : Transfer) :
    (p.chosen t).trail = p.trail := by
  cases t <;> rfl

namespace Pipeline

/-- The check of a destination: its account id must be one. -/
def checkDestination (identifier : Text) (d : Destination) : Except Cause Destination :=
  if isAccountId d.accountId then .ok d else .error (.badAccountId identifier d.accountId)

/-- The check of what the compliance relay sent: it must be a transaction. -/
def checkRelayed (p : Pipeline) (text : Text) : Except Cause Envelope :=
  match Envelope.ofTransactionText? p.foreign text p.network with
  | some e => .ok e
  | none => .error .relayedTransaction

/-- Why the account that pays could not be loaded. -/
def loadCause (accountId : Text) (f : Failure) : Cause :=
  if f.isMissingAccount then .sourceMissing accountId else .sourceLookup accountId f

/-- The verdict on what the ledger said about the account that receives. -/
def lookup (accountId amount : Text) : Reply Snapshot → Except Stop Transfer
  | .value _ => .ok (.payment accountId amount .native)
  | .failed f =>
    if f.isMissingAccount then .ok (.createAccount accountId amount)
    else .error (.cause (.destinationLookup accountId f))
  | .interrupted i => .error (.interrupted i)

/-- The verdict on the memo of a request. -/
def memoVerdict (request : PaymentRequest) (destination : Destination) : Except Stop Memo :=
  match MemoPolicy.decide request.memoType request.memo destination with
  | .ok m => .ok m
  | .error (.cause c) => .error (.cause c)
  | .error (.escape e) => .error (.escaped e)

/-- A transaction comes from the relay only if what the relay sent spells it. -/
theorem checkRelayed_eq_ok_iff {p : Pipeline} {text : Text} {envelope : Envelope} :
    p.checkRelayed text = .ok envelope ↔
      Envelope.ofTransactionText? p.foreign text p.network = some envelope := by
  unfold checkRelayed
  split
  · rename_i e' hread
    rw [hread, Except.ok.injEq, Option.some.injEq]
  · rename_i hread
    rw [hread]
    exact ⟨nofun, nofun⟩

/-- A transaction is judged only from a text that spells it. -/
theorem judged_relayed_eq_ok {p : Pipeline} {reply : Reply Text} {envelope : Envelope}
    (hok : reply.judged .relay p.checkRelayed = .ok envelope) :
    ∃ text, reply = .value text ∧
      Envelope.ofTransactionText? p.foreign text p.network = some envelope := by
  cases reply with
  | value text => exact ⟨text, rfl, checkRelayed_eq_ok_iff.mp (mapError_eq_ok_iff.mp hok)⟩
  | failed f => cases hok
  | interrupted i => cases hok

/-- A lookup is interrupted only by an interruption. -/
theorem eq_interrupted_of_lookup {accountId amount : Text} {reply : Reply Snapshot}
    {i : Interruption} (hstop : lookup accountId amount reply = .error (.interrupted i)) :
    reply = .interrupted i := by
  cases reply with
  | value snapshot => cases hstop
  | failed f =>
    rw [lookup] at hstop
    split at hstop <;> cases hstop
  | interrupted j =>
    cases hstop
    rfl

variable {q q' : Progress} {h : CallTranscript}

/-- Resolving is a call and the check of what comes back. -/
theorem resolve_eq (identifier : Text) : resolve identifier =
    (Run.require (.resolve identifier) (.unresolvable identifier) >>= fun d =>
      Run.ofExcept (checkDestination identifier d)) := by
  unfold resolve
  congr 1
  funext d
  unfold checkDestination
  split <;> rfl

/-- Resolving makes one call and judges its reply. -/
theorem takes_resolve_iff {identifier : Text} {e : Except Stop Destination} :
    (resolve identifier).Takes q h e q' ↔
      ∃ reply, h = [⟨.resolve identifier, reply⟩] ∧
        e = reply.judged (.unresolvable identifier) (checkDestination identifier) ∧
        q' = q.after e := by
  rw [resolve_eq]
  exact Run.takes_require_ofExcept_iff

/-- The operation for a credit asset is chosen without a look at the ledger. -/
theorem takes_transfer_credit_iff {code issuer accountId amount : Text}
    {e : Except Stop Transfer} :
    (transfer (.credit code issuer) accountId amount).Takes q h e q' ↔
      h = [] ∧ e = .ok (.payment accountId amount (.credit code issuer)) ∧ q' = q := by
  rw [transfer, Run.takes_pure_iff]

/-- The operation for the native asset is chosen by one look at the account that receives. -/
theorem takes_transfer_native_iff {accountId amount : Text} {e : Except Stop Transfer} :
    (transfer .native accountId amount).Takes q h e q' ↔
      ∃ reply, h = [⟨.account accountId, reply⟩] ∧ e = lookup accountId amount reply ∧
        q' = match e with
          | .ok t => q.chosen t
          | .error _ => q.after e := by
  have hmissing : ∀ f h, ((if f.isMissingAccount then do
        Run.log (creationRecord accountId)
        pure (.createAccount accountId amount)
      else Run.fail (.destinationLookup accountId f) : Run Transfer)).Takes q h e q' ↔
        h = [] ∧ e = lookup accountId amount (.failed f) ∧ q' = match e with
          | .ok t => q.chosen t
          | .error _ => q.after e := by
    intro f h
    rw [lookup]
    by_cases hcreate : f.isMissingAccount = true
    · rw [if_pos hcreate, if_pos hcreate, Run.takes_log_bind_iff, Run.takes_pure_iff]
      constructor <;> (rintro ⟨rfl, rfl, rfl⟩; exact ⟨rfl, rfl, rfl⟩)
    · rw [if_neg hcreate, if_neg hcreate, Run.takes_fail_iff]
      constructor <;> (rintro ⟨rfl, rfl, rfl⟩; exact ⟨rfl, rfl, rfl⟩)
  rw [transfer, Run.takes_call_bind_iff]
  constructor
  · rintro ⟨reply, h', rfl, ⟨i, rfl, rfl, rfl, rfl⟩ | ⟨snapshot, rfl, hrest⟩ | ⟨f, rfl, hrest⟩⟩
    · exact ⟨_, rfl, rfl, rfl⟩
    · obtain ⟨rfl, rfl, rfl⟩ := Run.takes_pure_iff.mp hrest
      exact ⟨_, rfl, rfl, rfl⟩
    · obtain ⟨rfl, heq, hq⟩ := (hmissing f h').mp hrest
      exact ⟨_, rfl, heq, hq⟩
  · rintro ⟨reply, rfl, rfl, hq⟩
    refine ⟨reply, [], rfl, ?_⟩
    cases reply with
    | value snapshot => exact .inr (.inl ⟨snapshot, rfl, Run.takes_pure_iff.mpr ⟨rfl, rfl, hq⟩⟩)
    | failed f => exact .inr (.inr ⟨f, rfl, (hmissing f []).mpr ⟨rfl, rfl, hq⟩⟩)
    | interrupted i => exact .inl ⟨i, rfl, rfl, rfl, hq⟩

/-- The memo takes no call. -/
theorem takes_memo_iff {request : PaymentRequest} {d : Destination} {e : Except Stop Memo} :
    (memo request d).Takes q h e q' ↔ h = [] ∧ e = memoVerdict request d ∧ q' = q.after e := by
  unfold memo memoVerdict
  cases MemoPolicy.decide request.memoType request.memo d with
  | ok m =>
    rw [Run.takes_pure_iff]
    constructor <;> (rintro ⟨rfl, rfl, rfl⟩; exact ⟨rfl, rfl, rfl⟩)
  | error refusal =>
    cases refusal with
    | cause c =>
      rw [Run.takes_fail_iff]
      constructor <;> (rintro ⟨rfl, rfl, rfl⟩; exact ⟨rfl, rfl, rfl⟩)
    | escape e =>
      rw [Run.takes_throw_iff]
      constructor <;> (rintro ⟨rfl, rfl, rfl⟩; exact ⟨rfl, rfl, rfl⟩)

/-- The account that pays is loaded by one call. -/
theorem takes_sourceSnapshot_iff {accountId : Text} {e : Except Stop Snapshot} :
    (sourceSnapshot accountId).Takes q h e q' ↔
      ∃ reply, h = [⟨.account accountId, reply⟩] ∧ e = reply.verdict (loadCause accountId) ∧
        q' = q.after e :=
  Run.takes_require_iff

/-- Relaying is a call and the check of what comes back. -/
theorem relay_eq (p : Pipeline) (request : PaymentRequest) (k : Keypair) : p.relay request k =
    (Run.require (.relay (relayRequest request k)) .relay >>= fun text =>
      Run.ofExcept (p.checkRelayed text)) := by
  unfold relay
  congr 1
  funext text
  unfold checkRelayed
  cases Envelope.ofTransactionText? p.foreign text p.network <;> rfl

/-- Relaying makes one call and judges its reply. -/
theorem takes_relay_iff {p : Pipeline} {request : PaymentRequest} {k : Keypair}
    {e : Except Stop Envelope} :
    (p.relay request k).Takes q h e q' ↔
      ∃ reply, h = [⟨.relay (relayRequest request k), reply⟩] ∧
        e = reply.judged .relay p.checkRelayed ∧ q' = q.after e := by
  rw [relay_eq]
  exact Run.takes_require_ofExcept_iff

/-- The native asset is that of a request that names none. -/
theorem ofFields_isNative {request : PaymentRequest} {asset : Asset}
    (hasset : Asset.ofFields request.assetCode request.assetIssuer = .ok asset) :
    request.isNative = true ↔ asset = .native := by
  unfold Asset.ofFields at hasset
  unfold PaymentRequest.isNative
  split at hasset
  · rename_i hcode hissuer
    split at hasset <;> cases hasset
    simp [hcode]
  · rename_i hcode hissuer
    cases hasset
    simp [hcode, hissuer]
  · cases hasset

/-- A credit asset has the code and the issuer of the request. -/
theorem ofFields_credit {request : PaymentRequest} {code issuer : Text}
    (hasset : Asset.ofFields request.assetCode request.assetIssuer = .ok (.credit code issuer)) :
    code = request.assetCode ∧ issuer = request.assetIssuer := by
  unfold Asset.ofFields at hasset
  split at hasset
  · split at hasset
    · cases hasset
      exact ⟨rfl, rfl⟩
    · cases hasset
  · cases hasset
  · cases hasset

/-- The calls by which the operation that moves an asset is chosen, and their replies. -/
inductive Choice (accountId amount : Text) : Asset → CallTranscript → Transfer → Prop where
  | credit (code issuer : Text) :
    Choice accountId amount (.credit code issuer) []
      (.payment accountId amount (.credit code issuer))
  | present (snapshot : Snapshot) :
    Choice accountId amount .native [⟨.account accountId, .value snapshot⟩]
      (.payment accountId amount .native)
  | missing (f : Failure) (hmissing : f.isMissingAccount = true) :
    Choice accountId amount .native [⟨.account accountId, .failed f⟩]
      (.createAccount accountId amount)

/-- An operation is chosen in one of these ways. -/
theorem choice_of_takes {asset : Asset} {accountId amount : Text} {t : Transfer}
    (htakes : (transfer asset accountId amount).Takes q h (.ok t) q') :
    Choice accountId amount asset h t ∧ q' = q.chosen t := by
  cases asset with
  | credit code issuer =>
    obtain ⟨rfl, heq, rfl⟩ := takes_transfer_credit_iff.mp htakes
    cases heq
    exact ⟨.credit code issuer, rfl⟩
  | native =>
    obtain ⟨reply, rfl, heq, rfl⟩ := takes_transfer_native_iff.mp htakes
    refine ⟨?_, rfl⟩
    cases reply with
    | value snapshot =>
      cases heq
      exact .present snapshot
    | interrupted i => cases heq
    | failed f =>
      rw [lookup] at heq
      split at heq
      · rename_i hmissing
        cases heq
        exact .missing f hmissing
      · cases heq

/-- Only the lookup of the account that receives keeps an operation from being chosen. -/
theorem lookup_of_takes {asset : Asset} {accountId amount : Text} {s : Stop}
    (htakes : (transfer asset accountId amount).Takes q h (.error s) q') :
    asset = .native ∧ ∃ reply, h = [⟨.account accountId, reply⟩] ∧
      lookup accountId amount reply = .error s ∧ q' = q.stopped s := by
  cases asset with
  | credit code issuer => cases (takes_transfer_credit_iff.mp htakes).2.1
  | native =>
    obtain ⟨reply, rfl, heq, rfl⟩ := takes_transfer_native_iff.mp htakes
    exact ⟨rfl, reply, rfl, heq.symm, rfl⟩

/-- The key pair takes no call. -/
theorem takes_source_iff {request : PaymentRequest} {e : Except Stop Keypair} :
    (source request).Takes q h e q' ↔
      h = [] ∧ q' = q.after e ∧
        e = match Keypair.ofSecret? request.source with
          | some k => .ok k
          | none => .error (.cause .badSource) := by
  unfold source
  cases Keypair.ofSecret? request.source with
  | some k =>
    rw [Run.takes_pure_iff]
    constructor <;> (rintro ⟨rfl, rfl, rfl⟩; exact ⟨rfl, rfl, rfl⟩)
  | none =>
    rw [Run.takes_fail_iff]
    constructor <;> (rintro ⟨rfl, rfl, rfl⟩; exact ⟨rfl, rfl, rfl⟩)

end Pipeline

end Remittance
