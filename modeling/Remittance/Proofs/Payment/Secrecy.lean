import Remittance.Proofs.Expansion
import Remittance.Proofs.Payment.Relay
import Remittance.Proofs.Payment.Sequence

/-!
# What a run lets out of a secret

A run knows the secret seed of the account that pays. Here the same run is written once more without
the seed: it is given the public key, and where an envelope goes to the ledger it lets out the
octets in front of the signature and the message to be signed. The main statement `secret_kept` is
that a run which signs here is that run, with a signature of the message put behind the octets. So
nothing but signatures is made from the seed itself, and a run without a seed lets out nothing at
all of what was in its place.
-/

set_option autoImplicit false

namespace Remittance

/-- What a run lets out: a call, or an envelope up to its signature with the message that is
signed. -/
inductive Disclosure where
  | call (c : Call)
  | envelope (front message : Octets)

/-- What comes back for it. -/
abbrev Disclosure.Answer : Disclosure → Type
  | .call c => c.Answer
  | .envelope .. => Reply Json

/-- The call that is made of a disclosure, by what signs a message and by what becomes of a call. -/
def Disclosure.reveal {Q : Type} {R : Q → Type} (f : (c : Call) → Dialogue Q R c.Answer)
    (sign : Octets → Octets) : (d : Disclosure) → Dialogue Q R d.Answer
  | .call c => f c
  | .envelope front message => f (.submit (Base64.encode (front ++ sign message)))

/-- The octets of an envelope with one signature of a key, up to that signature. -/
def Key.envelopeFront (key : Key) (transaction : Octets) : Octets :=
  envelopeTag ++ transaction ++ [0, 0, 0, 1] ++ key.val.drop 28 ++ [0, 0, 0, 64]

namespace Pipeline

/-- The relay's way to an envelope, for the account that pays. -/
def relayFor (p : Pipeline) (request : PaymentRequest) (payer : String) : Run Envelope := do
  let text : Text ← Run.require (.relay
    { source := payer, sender := request.sender, destination := request.destination,
      amount := request.amount, assetCode := request.assetCode, assetIssuer := request.assetIssuer,
      extraMemo := request.extraMemo }) .relay
  match Envelope.ofTransactionText? p.foreign text p.network with
  | some e => pure e
  | none => Run.fail .relayedTransaction

/-- The assembly of an envelope, for the account that pays. -/
def assembleFor (p : Pipeline) (request : PaymentRequest) (payer : String) : Run Envelope := do
  let destination ← resolve request.destination
  let asset ← Run.ofExcept (Asset.ofFields request.assetCode request.assetIssuer)
  let transfer ← transfer asset destination.accountId request.amount
  let memo ← memo request destination
  let snapshot ← sourceSnapshot payer
  match p.envelope payer snapshot transfer memo with
  | .ok e => pure e
  | .error f => Run.fail (.build f)

/-- The way of a request to its envelope, for the account that pays. -/
def makeFor (p : Pipeline) (request : PaymentRequest) (payer : String) : Run Envelope :=
  if p.takesRelay request then do
    Run.enter .complianceRelay
    p.relayFor request payer
  else do
    Run.enter .directAssembly
    p.assembleFor request payer

/-- The end of a run that has come to an envelope, or has not: what it lets out for a public key. -/
def discloseEnvelope (key : Key) :
    Except Stop Envelope × Progress → Dialogue Disclosure Disclosure.Answer (Ended × Progress)
  | (.error s, q) => .done (conclude (.error s, q))
  | (.ok envelope, q) =>
    match envelope.transaction.encode? with
    | none =>
      let cause := Cause.signing (.signing .wordRange)
      .done (conclude (.error (.cause cause), (q.entered .signed).noted cause.record))
    | some b =>
      let message := Sha2.sha256 (Envelope.payload envelope.network b)
      .ask (.envelope (key.envelopeFront b) message) fun reply =>
        let e := (reply.verdict (.submission (Octets.hex message))).map fun result =>
          (result, Octets.hex message)
        .done (conclude (e, ((q.entered .signed).entered .submitted).after e))

/-- A run without the seed: what it lets out for the public key of the account that pays, and how it
ends. -/
def disclosed (p : Pipeline) (key : Key) (request : PaymentRequest) :
    Dialogue Disclosure Disclosure.Answer (Ended × Progress) :=
  (((p.makeFor request key.accountId).start ⟨[.start], []⟩).expand fun c => .once (.call c)).bind
    (discloseEnvelope key)

variable {p : Pipeline} {request : PaymentRequest} {k : Keypair}

/-- The way of a request to its envelope depends on its secret only by the account that pays. -/
theorem make_eq_makeFor (p : Pipeline) (request : PaymentRequest) (k : Keypair) (source : Text) :
    p.make { request with source := source } k =
      p.makeFor { request with source := "" } k.publicKey.accountId := rfl

/-- The octets of an envelope with one signature. -/
theorem envelope_signature (w : Wire.Transaction) (k : Keypair) (message : Octets) :
    w.envelope ⟨[Envelope.signatureOf k message], Nat.le_add_left 1 19⟩ =
      k.publicKey.envelopeFront w.octets ++ k.sign message := by
  have hlength : (k.sign message).length = 64 := Ed25519.length_sign _ _ _
  have hone : Xdr.Format.word.write (UInt32.ofNat 1) = [0, 0, 0, 1] := by decide
  have hcount : Xdr.Format.word.write (UInt32.ofNat 64) = [0, 0, 0, 64] := by decide
  have hnone : List.replicate (Xdr.padding 4) (0 : UInt8) = [] := by decide
  have hnone' : List.replicate (Xdr.padding 64) (0 : UInt8) = [] := by decide
  simp only [Wire.Transaction.envelope, Wire.signatures, Xdr.Format.listUpTo, Wire.signature,
    Xdr.Format.map, Xdr.Format.pair, Xdr.Format.block, Xdr.Format.sized, Envelope.signatureOf,
    List.length_singleton, List.flatMap_singleton, hlength, hone, hcount, hnone, hnone',
    Key.envelopeFront, List.append_nil, List.append_assoc]

/-- An envelope that is signed here and handed over is let out up to its signature. -/
theorem expand_handOver {Q : Type} {R : Q → Type} {f : (c : Call) → Dialogue Q R c.Answer}
    (hsigner : ∀ k envelope, f (.sign k envelope) = .done (Connections.signHere k envelope))
    {e : Except Stop Envelope} {q : Progress}
    (hunsigned : ∀ envelope, e = .ok envelope → envelope.signatures = []) :
    (handOver k (e, q)).expand f =
      (discloseEnvelope k.publicKey (e, q)).expand (Disclosure.reveal f k.sign) := by
  cases e with
  | error s => rfl
  | ok envelope =>
    rw [handOver, discloseEnvelope, Dialogue.expand_ask, hsigner, Dialogue.done_bind]
    cases hencode : envelope.transaction.encode? with
    | none =>
      rw [signHere_of_unwritable k hencode]
      rfl
    | some b =>
      obtain ⟨w, hwire, rfl⟩ := Option.map_eq_some_iff.mp hencode
      rw [signHere_of_toWire? k (hunsigned envelope rfl) hwire, envelope_signature]
      dsimp only [Reply.verdict, Envelope.hashOf]
      generalize Sha2.sha256 (Envelope.payload envelope.network w.octets) = message
      rw [Dialogue.expand_ask, Dialogue.expand_ask]
      simp only [Disclosure.reveal, Dialogue.expand]

/-- The text that shows a request is made of all fields but the first, which is the secret. -/
theorem display_eq (request : PaymentRequest) (s : Text) :
    { request with source := s }.display = "PaymentRequest(" ++
      String.intercalate ", " (request.fields.tail.map fun f => f.1 ++ "=" ++ Quoted.quote f.2) ++
        ")" := by
  have hfields : ({ request with source := s } : PaymentRequest).fields.filter
      (fun f => f.1 != "source") = request.fields.tail := rfl
  unfold PaymentRequest.display
  rw [hfields]

/-- Three things keep the secret of a request. Without a key pair the run is the same whatever
stands in its place, and asks nothing. With one, a run that signs here is the run without the seed,
with signatures of the key pair put behind what that run lets out. And the text that shows a request
does not depend on its secret. -/
theorem secret_kept (p : Pipeline) (request : PaymentRequest) (s s' : Text) :
    (Keypair.ofSecret? s = none → Keypair.ofSecret? s' = none → ∃ r : Ended × Progress,
      p.submit { request with source := s } = .done r ∧
        p.submit { request with source := s' } = .done r) ∧
    (∀ k, Keypair.ofSecret? s = some k →
      ∀ {Q : Type} {R : Q → Type} (f : (c : Call) → Dialogue Q R c.Answer),
        (∀ k envelope, f (.sign k envelope) = .done (Connections.signHere k envelope)) →
        (p.submit { request with source := s }).expand f =
          (p.disclosed k.publicKey { request with source := "" }).expand
            (Disclosure.reveal f k.sign)) ∧
    { request with source := s }.display = { request with source := s' }.display := by
  refine ⟨?_, ?_, ?_⟩
  · intro hk hk'
    exact ⟨_, submit_of_no_source hk, submit_of_no_source hk'⟩
  · intro k hk Q R f hsigner
    have hsubmit := @submit_eq_handOver p { request with source := s } k hk
    rw [hsubmit, disclosed, ← make_eq_makeFor p request k s, Dialogue.expand_bind,
      Dialogue.expand_bind, Dialogue.expand_expand]
    simp only [Dialogue.expand_once]
    refine Dialogue.expand_bind_congr fun h r hgoes => ?_
    obtain ⟨e, q⟩ := r
    refine expand_handOver hsigner fun envelope hmade => ?_
    subst hmade
    have htakes : (p.make { request with source := s } k).Takes ⟨[.start], []⟩ h (.ok envelope) q :=
      hgoes
    exact (making_of_takes htakes).unsigned
  · exact (display_eq request s).trans (display_eq request s').symm

/-- Connections on which agents answer every call, and envelopes are signed here. -/
def agents : Connections := { names := .agent, ledger := .agent, relay := .agent }

/-- The payment of one unit keeps its secret: without a seed in two ways, and with the seed of
zeros. -/
theorem zeroRequest_kept :
    (Keypair.ofSecret? ("" : Text) = none ∧ Keypair.ofSecret? ("seed" : Text) = none ∧
      ∃ r : Ended × Progress,
      (timedPipeline 30).submit { zeroRequest with source := "" } = .done r ∧
        (timedPipeline 30).submit { zeroRequest with source := "seed" } = .done r) ∧
    (Keypair.ofSecret? zeroRequest.source = some ⟨zeroKey⟩ ∧
      (timedPipeline 30).submitOver agents zeroRequest =
        ((timedPipeline 30).disclosed (Keypair.publicKey ⟨zeroKey⟩)
          { zeroRequest with source := "" }).expand
            (Disclosure.reveal agents.put (Keypair.sign ⟨zeroKey⟩))) ∧
    { zeroRequest with source := "" }.display = { zeroRequest with source := "seed" }.display := by
  have hempty : Keypair.ofSecret? ("" : Text) = none := rfl
  have hother : Keypair.ofSecret? ("seed" : Text) = none := rfl
  obtain ⟨hnone, -, hdisplay⟩ := secret_kept (timedPipeline 30) zeroRequest "" "seed"
  obtain ⟨-, hsome, -⟩ := secret_kept (timedPipeline 30) zeroRequest zeroRequest.source ""
  exact ⟨⟨hempty, hother, hnone hempty hother⟩,
    ⟨zeroRequest_source, hsome ⟨zeroKey⟩ zeroRequest_source agents.put fun _ _ => rfl⟩, hdisplay⟩

end Pipeline

end Remittance
