import Remittance.Proofs.Expansion
import Remittance.Proofs.Payment.Protocol

/-!
# A run as one dialogue

The calls of a run in their order, each with what follows from its reply. A run that assembles its
transaction asks the resolver, then perhaps for the account that receives, and goes on with the
operation that this has chosen; a run that has it made by a relay asks the relay and hands over what
comes back. The main statements are that a run is this dialogue, so what follows a reply can be read
off without a look at the stages.
-/

set_option autoImplicit false

namespace Remittance

namespace Pipeline

/-- The end of a run that has come to an envelope, or has not. -/
def handOver (k : Keypair) :
    Except Stop Envelope × Progress → Dialogue Call Call.Answer (Ended × Progress)
  | (.error s, q) => .done (conclude (.error s, q))
  | (.ok envelope, q) =>
    .ask (.sign k envelope) fun (reply : Reply Signed) =>
      match reply.verdict .signing with
      | .error s => .done (conclude (.error s, (q.entered .signed).stopped s))
      | .ok signed =>
        .ask (.submit signed.envelope) fun (reply : Reply Json) =>
          let e := (reply.verdict (.submission signed.hash)).map fun result => (result, signed.hash)
          .done (conclude (e, ((q.entered .signed).entered .submitted).after e))

/-- The end of a run that is stopped in a progress. -/
def stopped (q : Progress) (s : Stop) : Dialogue Call Call.Answer (Ended × Progress) :=
  .done (conclude (.error s, q.stopped s))

/-- The progress of a run that has begun to assemble its transaction. -/
def assembling : Progress := ⟨[.start, .directAssembly], []⟩

/-- The progress of a run that has its transaction made by the relay. -/
def relaying : Progress := ⟨[.start, .complianceRelay], []⟩

/-- The assembly of an envelope once its operation has been chosen. -/
def assembleWith (p : Pipeline) (request : PaymentRequest) (k : Keypair) (d : Destination)
    (t : Transfer) : Run Envelope := do
  let memo ← memo request d
  let snapshot ← sourceSnapshot k.accountId
  match p.envelope k.accountId snapshot t memo with
  | .ok e => pure e
  | .error f => Run.fail (.build f)

/-- What is left of a run once its operation has been chosen. -/
def finish (p : Pipeline) (request : PaymentRequest) (k : Keypair) (d : Destination)
    (t : Transfer) : Dialogue Call Call.Answer (Ended × Progress) :=
  ((p.assembleWith request k d t).start (assembling.chosen t)).bind (handOver k)

/-- What is left of a run once its operation and its memo are known: the account that pays is
loaded, and an envelope that can be built of all this is handed over. -/
def load (p : Pipeline) (k : Keypair) (t : Transfer) (m : Memo) :
    Dialogue Call Call.Answer (Ended × Progress) :=
  .ask (.account k.accountId) fun (reply : Reply Snapshot) =>
    match reply.verdict (loadCause k.accountId) with
    | .error s => stopped (assembling.chosen t) s
    | .ok snapshot =>
      let e := (p.envelope k.accountId snapshot t m).mapError fun f => Stop.cause (.build f)
      handOver k (e, (assembling.chosen t).after e)

/-- What is left of a run once it is decided whether it has an operation. -/
def decided (p : Pipeline) (request : PaymentRequest) (k : Keypair) (d : Destination) :
    Except Stop Transfer → Dialogue Call Call.Answer (Ended × Progress)
  | .error s => stopped assembling s
  | .ok t => p.finish request k d t

/-- What is left of a run once the relay has been asked: what it made is handed over. -/
def afterRelay (k : Keypair) : Except Stop Envelope → Dialogue Call Call.Answer (Ended × Progress)
  | .error s => stopped relaying s
  | .ok envelope => handOver k (.ok envelope, relaying)

/-- What is left of a run once its destination is known: the choice of its operation, and the
rest. -/
def choose (p : Pipeline) (request : PaymentRequest) (k : Keypair) (d : Destination) :
    Dialogue Call Call.Answer (Ended × Progress) :=
  match Asset.ofFields request.assetCode request.assetIssuer with
  | .error c => p.decided request k d (.error (.cause c))
  | .ok (.credit code issuer) =>
    p.decided request k d (.ok (.payment d.accountId request.amount (.credit code issuer)))
  | .ok .native =>
    .ask (.account d.accountId) fun (reply : Reply Snapshot) =>
      p.decided request k d (lookup d.accountId request.amount reply)

variable {p : Pipeline} {request : PaymentRequest} {k : Keypair}

/-- A run without a key pair ends at once, and as any other such run. -/
theorem submit_of_no_source (hk : Keypair.ofSecret? request.source = none) :
    p.submit request =
      .done (conclude (.error (.cause .badSource), ⟨[.start], [Cause.badSource.record]⟩)) := by
  have hsource : source request = Run.fail .badSource := by
    rw [source, hk]
  rw [submit, stages, sign, hsource]
  rfl

/-- What a required call comes to. -/
theorem start_require (c : Call) (cause : Failure → Cause) (q : Progress) :
    (Run.require c cause).start q = .ask c fun reply =>
      .done (reply.verdict cause, q.after (reply.verdict cause)) := by
  rw [Run.require, Run.start_bind, Run.start_call, Dialogue.ask_bind]
  congr 1
  funext reply
  cases reply <;> rfl

/-- A run with a key pair makes its envelope and hands it over. -/
theorem submit_eq_handOver (hk : Keypair.ofSecret? request.source = some k) :
    p.submit request = ((p.make request k).start ⟨[.start], []⟩).bind (handOver k) := by
  have hsource : source request = pure k := by
    rw [source, hk]
  rw [submit, stages, Run.start_bind, sign, hsource, Run.start_bind, Run.start_pure,
    Dialogue.done_bind]
  dsimp only
  rw [Run.start_bind, Dialogue.bind_assoc, Dialogue.bind_assoc]
  congr 1
  funext r
  obtain ⟨e, q⟩ := r
  cases e with
  | error s => rfl
  | ok envelope =>
    -- The signature, and then the submission, are asked for in front of what follows them.
    dsimp only [handOver]
    rw [Run.start_bind, Run.start_enter, Dialogue.done_bind]
    dsimp only
    rw [start_require]
    simp only [Dialogue.ask_bind]
    congr 1
    funext reply
    cases reply.verdict .signing with
    | error s => rfl
    | ok signed =>
      simp only [Dialogue.done_bind]
      rw [Run.start_bind, Run.start_enter, Dialogue.done_bind]
      dsimp only
      rw [Run.start_bind, start_require]
      simp only [Dialogue.ask_bind]
      congr 1
      funext reply
      cases reply.verdict (.submission signed.hash) with
      | error s => rfl
      | ok result => rfl

/-- Handing over an envelope asks the signer and the ledger alone, and no other envelope is signed,
nor by another key pair. -/
theorem calls_of_handOver {q : Progress} {e : Except Stop Envelope} {h : CallTranscript}
    {r : Ended × Progress} (hgoes : (handOver k (e, q)).Goes h r) :
    ∀ x ∈ h, x.1.isMaking = false ∧
      ∀ k' envelope, x.1 = .sign k' envelope → k' = k ∧ e = .ok envelope := by
  cases e with
  | error s =>
    obtain ⟨rfl, -⟩ := Dialogue.goes_done_iff.mp hgoes
    exact List.forall_mem_nil _
  | ok made =>
    obtain ⟨signed, h', rfl, hrest⟩ := Dialogue.goes_ask_iff.mp hgoes
    refine List.forall_mem_cons.mpr ⟨⟨rfl, ?_⟩, ?_⟩
    · rintro k' envelope heq
      cases heq
      exact ⟨rfl, rfl⟩
    -- Of what follows the signature, the submission is all that is asked.
    cases hverdict : Reply.verdict .signing signed with
    | error s =>
      rw [hverdict] at hrest
      obtain ⟨rfl, -⟩ := Dialogue.goes_done_iff.mp hrest
      exact List.forall_mem_nil _
    | ok text =>
      rw [hverdict] at hrest
      obtain ⟨reply', h'', rfl, hend⟩ := Dialogue.goes_ask_iff.mp hrest
      obtain ⟨rfl, -⟩ := Dialogue.goes_done_iff.mp hend
      exact List.forall_mem_singleton.mpr ⟨rfl, fun k' envelope heq => nomatch heq⟩

/-- Once the relay has been asked, no call makes an envelope. -/
theorem isMaking_of_afterRelay {e : Except Stop Envelope} {h : CallTranscript}
    {r : Ended × Progress} (hgoes : (afterRelay k e).Goes h r) :
    ∀ x ∈ h, x.1.isMaking = false := by
  cases e with
  | error s =>
    obtain ⟨rfl, -⟩ := Dialogue.goes_done_iff.mp hgoes
    exact List.forall_mem_nil _
  | ok envelope =>
    rw [afterRelay] at hgoes
    exact fun x hx => (calls_of_handOver hgoes x hx).1

/-- What a check comes to. -/
theorem start_ofExcept {α : Type} (x : Except Cause α) (q : Progress) :
    (Run.ofExcept x).start q = .done (x.mapError .cause, q.after (x.mapError .cause)) := by
  cases x <;> rfl

/-- What a required call comes to whose value is checked. -/
theorem start_require_ofExcept {β : Type} (c : Call) (cause : Failure → Cause)
    (check : c.Value → Except Cause β) (q : Progress) :
    (Run.require c cause >>= fun a => Run.ofExcept (check a)).start q = .ask c fun reply =>
      .done (reply.judged cause check, q.after (reply.judged cause check)) := by
  rw [Run.start_bind, start_require, Dialogue.ask_bind]
  congr 1
  funext reply
  cases reply with
  | value a => exact start_ofExcept (check a) q
  | failed f => rfl
  | interrupted i => rfl

/-- What the choice of the operation for the native asset comes to. -/
theorem start_transfer_native (accountId amount : Text) (q : Progress) :
    (transfer .native accountId amount).start q =
      .ask (.account accountId) fun (reply : Reply Snapshot) =>
        .done (match lookup accountId amount reply with
          | .ok t => (.ok t, q.chosen t)
          | .error s => (.error s, q.stopped s)) := by
  rw [transfer, Run.start_bind, Run.start_call, Dialogue.ask_bind]
  congr 1
  funext reply
  cases reply with
  | value snapshot => rfl
  | interrupted i => rfl
  | failed f =>
    rw [lookup]
    show (if f.isMissingAccount then _ else _ : Run Transfer).start q = _
    split <;> rfl

/-- What the memo comes to. -/
theorem start_memo (d : Destination) (q : Progress) : (memo request d).start q =
    .done (memoVerdict request d, q.after (memoVerdict request d)) := by
  unfold memo memoVerdict
  cases MemoPolicy.decide request.memoType request.memo d with
  | ok m => rfl
  | error refusal => cases refusal <;> rfl

/-- A run with an operation settles its memo, and goes on from there if it has one. -/
theorem finish_eq (p : Pipeline) (request : PaymentRequest) (k : Keypair) (d : Destination)
    (t : Transfer) : p.finish request k d t = match memoVerdict request d with
      | .error s => stopped (assembling.chosen t) s
      | .ok m => p.load k t m := by
  rw [finish, assembleWith, Run.start_bind, start_memo, Dialogue.done_bind]
  cases memoVerdict request d with
  | error s => rfl
  | ok m =>
    have hload : sourceSnapshot k.accountId =
        Run.require (.account k.accountId) (loadCause k.accountId) := rfl
    dsimp only
    rw [Run.start_bind, hload, start_require, Dialogue.ask_bind, Dialogue.ask_bind, load]
    congr 1
    funext reply
    rw [Dialogue.done_bind]
    cases reply.verdict (loadCause k.accountId) with
    | error s => rfl
    | ok snapshot =>
      dsimp only
      cases p.envelope k.accountId snapshot t m <;> rfl

/-- The assembly for a destination that is known is the choice of its operation, and the rest. -/
theorem choose_eq (p : Pipeline) (request : PaymentRequest) (k : Keypair) (d : Destination) :
    ((do
      let asset ← Run.ofExcept (Asset.ofFields request.assetCode request.assetIssuer)
      let t ← transfer asset d.accountId request.amount
      p.assembleWith request k d t : Run Envelope).start assembling).bind (handOver k) =
      p.choose request k d := by
  rw [Run.start_bind, start_ofExcept, Dialogue.done_bind, choose]
  cases Asset.ofFields request.assetCode request.assetIssuer with
  | error c => rfl
  | ok asset =>
    show ((transfer asset d.accountId request.amount >>= p.assembleWith request k d).start
      assembling).bind (handOver k) = _
    rw [Run.start_bind]
    cases asset with
    | credit code issuer => rfl
    | native =>
      rw [start_transfer_native, Dialogue.ask_bind, Dialogue.ask_bind]
      congr 1
      funext reply
      cases lookup d.accountId request.amount reply <;> rfl

/-- A run that assembles its transaction asks the resolver, and chooses its operation for the
destination that is named. -/
theorem submit_eq_direct (hk : Keypair.ofSecret? request.source = some k)
    (hpath : p.takesRelay request = false) :
    p.submit request = .ask (.resolve request.destination) fun (reply : Reply Destination) =>
      match reply.judged (.unresolvable request.destination)
        (checkDestination request.destination) with
      | .error s => stopped assembling s
      | .ok d => p.choose request k d := by
  rw [submit_eq_handOver hk, make, if_neg (by simp [hpath]), Run.start_bind, Run.start_enter,
    Dialogue.done_bind]
  show ((p.assemble request k).start assembling).bind (handOver k) = _
  rw [assemble, Run.start_bind, resolve_eq, start_require_ofExcept, Dialogue.ask_bind,
    Dialogue.ask_bind]
  congr 1
  funext reply
  cases hreply : reply.judged (.unresolvable request.destination)
    (checkDestination request.destination) with
  | error s => rfl
  | ok d => exact choose_eq p request k d

/-- A run that has its transaction made by the relay asks the relay, and hands over what it made. -/
theorem submit_eq_relayed (hk : Keypair.ofSecret? request.source = some k)
    (hpath : p.takesRelay request = true) :
    p.submit request = .ask (.relay (relayRequest request k)) fun (reply : Reply Text) =>
      afterRelay k (reply.judged .relay p.checkRelayed) := by
  rw [submit_eq_handOver hk, make, if_pos hpath, Run.start_bind, Run.start_enter,
    Dialogue.done_bind]
  show ((p.relay request k).start relaying).bind (handOver k) = _
  rw [relay_eq, start_require_ofExcept, Dialogue.ask_bind]
  congr 1
  funext reply
  cases hreply : reply.judged .relay p.checkRelayed with
  | error s => rfl
  | ok envelope => rfl

end Pipeline

end Remittance
