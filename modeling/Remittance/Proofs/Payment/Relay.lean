import Remittance.Proofs.Ledger.Envelope
import Remittance.Proofs.Payment.Trail

/-!
# What a compliance relay has made

The text that goes to the ledger when a relay made the transaction. The main statement says which
octets are signed, hashed and submitted: the transaction that the relay sent, written again. They
are the octets that the relay sent if and only if the relay spelt its transaction as this library
does. Another spelling is taken too, and then what is signed is not what was sent. Parts of kinds
that this library does not know, operations and what may stand at the end of a transaction, are read
and spelt by whatever lawful readers the pipeline has for them. Main statement:
`relayed_submission`.
-/

set_option autoImplicit false

namespace Remittance

/-- Only a payment that is done reports a hash. -/
theorem Outcome.state_of_txHash {o : Outcome} {txHash : String} (hhash : o.txHash = some txHash) :
    o.state = .done := by
  obtain ⟨trail, ending⟩ := o
  cases ending with
  | done result hash => rfl
  | failed error => cases hhash

namespace Pipeline

variable {p : Pipeline} {request : PaymentRequest} {h : CallTranscript} {q' : Progress}
  {e : Except Stop (Json × String)}

/-- What was submitted for a request, where a relay made its transaction: what the relay sent, how
it reads, and what the text says. -/
structure Relayed (p : Pipeline) (request : PaymentRequest) (h : CallTranscript) (text : String)
    (k : Keypair) (relayed : Text) (b : Octets) (w : Wire.Transaction) : Prop where
  source : Keypair.ofSecret? request.source = some k
  calls : ∃ envelope signed reply,
    h = [⟨.relay (relayRequest request k), .value relayed⟩, ⟨.sign k envelope, .value signed⟩,
      ⟨.submit text, reply⟩]
  spelt : Envelope.spelt? relayed = some b
  read : (Wire.transaction p.foreign).readAll? b = some w
  /-- What is signed is the transaction that was read, with its assets in the forms that the lengths
  of their codes call for. -/
  signed : ∃ signature, SignedText k p.network w.fitted text signature
  kept : w.fitted.octets = b ↔ Wire.IsStandard p.foreign b
  /-- Where the forms are right and all kinds are known here, only octets that fill up a byte string
  can have changed. -/
  filled : w.Fits → w.IsNative → b.Zeroed w.fitted.octets

/-- A run that takes the relay's way and submits has read the envelope from what the relay sent, and
submits what the signer gave back for it. -/
theorem Course.relayed_of_submit {q : Progress} {text : String} {reply : Reply Json}
    (hcourse : Course p request q h e q') (hpath : p.takesRelay request = true)
    (hsubmit : (⟨.submit text, reply⟩ : (c : Call) × c.Answer) ∈ h) :
    ∃ k relayed envelope signed, Keypair.ofSecret? request.source = some k ∧
      Envelope.ofTransactionText? p.foreign relayed p.network = some envelope ∧
      text = signed.envelope ∧
      h = [⟨.relay (relayRequest request k), .value relayed⟩, ⟨.sign k envelope, .value signed⟩,
        ⟨.submit text, reply⟩] := by
  obtain ⟨k, envelope, signed, q₁, h₁, hk, hmaking, htext, rfl, -⟩ := hcourse.of_submit hsubmit
  cases hmaking with
  | relay reply' e' hpath' hjudged =>
    obtain ⟨relayed, rfl, hread⟩ := judged_relayed_eq_ok hjudged.symm
    exact ⟨k, relayed, envelope, signed, hk, hread, htext, rfl⟩
  | direct h₁ e' q₁ hdirect hassembly =>
    rw [hpath] at hdirect
    cases hdirect

/-- A way to an envelope comes to one without signatures. -/
theorem Making.unsigned {k : Keypair} {q : Progress} {envelope : Envelope}
    (hmaking : Making p request k q h (.ok envelope) q') : envelope.signatures = [] := by
  cases hmaking with
  | relay reply e hpath hend =>
    obtain ⟨text, rfl, hread⟩ := judged_relayed_eq_ok hend.symm
    obtain ⟨-, -, -, -, -, hunsigned, -⟩ := Envelope.exists_read hread
    exact hunsigned
  | direct h e q' hpath hassembly =>
    cases hassembly with
    | build d look t m snapshot e hchosen hmemo hend =>
      obtain ⟨b, -, hbuild⟩ := envelope_eq_ok_iff.mp (mapError_eq_ok_iff.mp hend.symm)
      exact Build.unsigned_of_build hbuild

/-- What is submitted after a relay made a transaction and it was signed here. -/
theorem relayed_of_read {k : Keypair} {relayed : Text} {envelope : Envelope} {signed : Signed}
    (hf : p.foreign.Lawful) (reply : Reply Json) (hk : Keypair.ofSecret? request.source = some k)
    (hread : Envelope.ofTransactionText? p.foreign relayed p.network = some envelope)
    (hsigned : Connections.signHere k envelope = .value signed) :
    ∃ b w, Relayed p request
        [⟨.relay (relayRequest request k), .value relayed⟩, ⟨.sign k envelope, .value signed⟩,
          ⟨.submit signed.envelope, reply⟩] signed.envelope k relayed b w ∧
      signed.hash = Octets.hex
        (Sha2.sha256 (Envelope.payload p.network w.fitted.octets)) := by
  obtain ⟨b, w, hspelt, hw, hwire, hunsigned, hnetwork⟩ := Envelope.exists_read hread
  obtain ⟨w', signature, hwire', htext⟩ := signedText_of_signHere hunsigned hsigned
  rw [hwire] at hwire'
  cases hwire'
  have hhash := hash_of_signHere hwire hsigned
  rw [hnetwork] at htext hhash
  refine ⟨b, w, ?_, hhash⟩
  exact {
    source := hk
    calls := ⟨envelope, signed, reply, rfl⟩
    spelt := hspelt
    read := hw
    signed := ⟨signature, htext⟩
    kept := Wire.octets_fitted_eq_iff hf hw
    filled := by
      intro hfits hnative
      rw [Wire.Transaction.fitted_eq_self hfits]
      exact ((Wire.faithful_transaction hf).of_readAll? hw).2 hnative }

/-- The relay's way comes to the envelope that the relay's text spells. -/
theorem Making.eq_ok_of_sent {k : Keypair} {q : Progress} {made : Except Stop Envelope}
    {text : Text} {envelope : Envelope} (hmaking : Making p request k q h made q')
    (hpath : p.takesRelay request = true)
    (hsent : ∀ r reply, (⟨.relay r, reply⟩ : (c : Call) × c.Answer) ∈ h → reply = .value text)
    (hread : Envelope.ofTransactionText? p.foreign text p.network = some envelope) :
    made = .ok envelope := by
  cases hmaking with
  | relay reply e hpath' hend =>
    rw [hend, hsent _ reply List.mem_cons_self]
    exact mapError_eq_ok_iff.mpr (checkRelayed_eq_ok_iff.mpr hread)
  | direct h e q' hdirect hassembly =>
    rw [hpath] at hdirect
    cases hdirect

/-- A run whose relay sends a transaction submits it, if the envelope is signed here. -/
theorem submits_of_relayed {σ : Type} {answer : σ → (c : Call) → c.Answer × σ} {text : Text}
    {envelope : Envelope} (s : σ) (hk : (Keypair.ofSecret? request.source).isSome = true)
    (hpath : p.takesRelay request = true)
    (hrelay : ∀ s r, (answer s (.relay r)).1 = .value text)
    (hread : Envelope.ofTransactionText? p.foreign text p.network = some envelope)
    (hsigner : ∀ s k e, (answer s (.sign k e)).1 = Connections.signHere k e) :
    ∃ text reply, (⟨.submit text, reply⟩ : (c : Call) × c.Answer) ∈
      (p.submit request).transcript answer s := by
  have hmem := @Dialogue.exists_state_of_mem_transcript _ _ _ _ answer s (p.submit request)
  obtain ⟨e, q', hcourse, -⟩ := course_of_goes (Dialogue.goes_run answer s (p.submit request))
  generalize (p.submit request).transcript answer s = h at hcourse hmem
  have hsent : ∀ r reply, (⟨.relay r, reply⟩ : (c : Call) × c.Answer) ∈ h →
      reply = .value text := by
    intro r reply hin
    obtain ⟨s', hreply⟩ := hmem hin
    rw [← hreply, hrelay]
  cases hcourse with
  | source hnone =>
    rw [hnone] at hk
    cases hk
  | making k h stop q' hk' hmaking => cases hmaking.eq_ok_of_sent hpath hsent hread
  | signing k h envelope' q₁ reply stop hk' hmaking hstop =>
    cases hmaking.eq_ok_of_sent hpath (fun r reply hin => hsent r reply
      (List.mem_append_left _ hin)) hread
    obtain ⟨b, w, -, -, hwire, hunsigned, -⟩ := Envelope.exists_read hread
    have hfits : envelope.transaction.encode?.isSome = true := by
      rw [Transaction.encode?, hwire]
      rfl
    obtain ⟨signed, hsigned⟩ := @exists_signed k _ hunsigned hfits
    obtain ⟨s', hreply⟩ := hmem (List.mem_append_right h List.mem_cons_self)
    rw [hsigner, hsigned] at hreply
    cases hreply
    cases hstop
  | submission k h envelope' q₁ signed reply e hk' hmaking hend =>
    exact ⟨signed.envelope, reply, by simp⟩

/-- From no run that takes the relay's way does anything escape, so all of them are recorded. -/
theorem Course.relayed_recorded (hcourse : Course p request ⟨[.start], []⟩ h e q')
    (hpath : p.takesRelay request = true) : Recorded p request h (conclude (e, q')) := by
  refine hcourse.recorded fun escape hstop => ?_
  have hdirect := (hcourse.escaped_iff.mp hstop).direct
  rw [hpath] at hdirect
  cases hdirect

/-- What the ledger takes after a relay made a transaction, if it is signed here, is the transaction
that the relay sent, written again: its signature and the hash that is reported are over those
octets, and they are the ones that the relay sent if and only if they are the standard spelling. -/
theorem relayed_submission (p : Pipeline) (hf : p.foreign.Lawful) (request : PaymentRequest)
    {σ : Type}
    (answer : σ → (c : Call) → c.Answer × σ) (s : σ)
    (hsigner : ∀ s k e, (answer s (.sign k e)).1 = Connections.signHere k e)
    (hpath : p.takesRelay request = true) {text : String} {reply : Reply Json}
    (hsubmit : (⟨.submit text, reply⟩ : (c : Call) × c.Answer) ∈
      (p.submit request).transcript answer s) :
    ∃ k relayed b w,
      Relayed p request ((p.submit request).transcript answer s) text k relayed b w ∧
      ∀ o txHash, ((p.submit request).run answer s).1.1 = .outcome o → o.txHash = some txHash →
        txHash = Octets.hex
          (Sha2.sha256 (Envelope.payload p.network w.fitted.octets)) := by
  have hmem := @Dialogue.exists_state_of_mem_transcript _ _ _ _ answer s (p.submit request)
  obtain ⟨e, q', hcourse, heq⟩ := course_of_goes (Dialogue.goes_run answer s (p.submit request))
  rw [heq]
  generalize (p.submit request).transcript answer s = h at hcourse hmem hsubmit
  have hrecorded := hcourse.relayed_recorded hpath
  obtain ⟨k, relayed, envelope, signed, hk, hread, rfl, rfl⟩ :=
    hcourse.relayed_of_submit hpath hsubmit
  obtain ⟨s', hsign⟩ := @hmem (.sign k envelope) (.value signed) (by simp)
  rw [hsigner] at hsign
  obtain ⟨b, w, hrelayed, hhash⟩ := relayed_of_read hf reply hk hread hsign
  refine ⟨k, relayed, b, w, hrelayed, ?_⟩
  intro o txHash hended hreported
  have hdone : o.state = .done := Outcome.state_of_txHash hreported
  -- The one signer's call of the run is that of the key pair of the request.
  obtain ⟨k', envelope', signed', hin, hsame⟩ := (hrecorded.outcome o hended).hash hdone
  have hsigned : signed' = signed := by
    simp only [List.mem_cons, List.not_mem_nil, or_false] at hin
    rcases hin with hin | hin | hin <;> cases hin
    rfl
  rw [hreported, hsigned] at hsame
  rw [Option.some.inj hsame, hhash]

/-- Collaborators of which the relay sends a text, and a signer that signs here. -/
def relayAnswers (text : String) : Behaviour
  | _, .relay _ => .ok text
  | turn, c => signingAnswers turn c

/-- These collaborators sign as is done here. -/
theorem relayAnswers_sign (text : String) (turn : Nat) (k : Keypair) (e : Envelope) :
    ((relayAnswers text).answer turn (.sign k e)).1 = Connections.signHere k e :=
  signingAnswers_sign turn k e

/-- A pipeline with a relay. -/
def relayPipeline : Pipeline := { timedPipeline 0 with hasRelay := true }

/-- The request for one unit of the native asset, with a further memo. -/
def memoRequest : PaymentRequest := { zeroRequest with extraMemo := "invoice 7" }

/-- The text of a payment with a text memo of one octet, which is filled up with other octets than
zeros. -/
def filledText : String :=
  "AAAAAAAAAAAAAAAAAAAAAAAAAAAAAAAAAAAAAAAAAAAAAAAAAAAAZAAAAAAAAAACAAAAAAAAAAEAAAABYQECAwAAAAEA" ++
    "AAAAAAAAAQAAAAAAAAAAAAAAAAAAAAAAAAAAAAAAAAAAAAAAAAAAAAAAAAAAAAAAAAAAAJiWgAAAAAA="

/-- That text is taken, and its transaction is written with other octets than it was sent with. -/
theorem filledText_read : ∃ b t, Envelope.spelt? filledText = some b ∧
    Transaction.decode? .none b = some t ∧ t.encode? ≠ some b := by
  have hcheck : ((Base64.decode? filledText).bind fun b =>
      (Transaction.decode? .none b).map fun t => decide (t.encode? = some b)) = some false := by
    decide +kernel
  obtain ⟨b, hb, hrest⟩ := Option.bind_eq_some_iff.mp hcheck
  obtain ⟨t, ht, hother⟩ := Option.map_eq_some_iff.mp hrest
  refine ⟨b, t, ?_, ht, of_decide_eq_false hother⟩
  rw [Envelope.spelt?, Text.string?_ofString, Option.bind_some, hb]

/-- A payment that the relay has made is signed and submitted, also where its memo is filled up with
other octets than zeros. -/
theorem filled_payment_submitted :
    relayPipeline.foreign.Lawful ∧
    (∀ turn k e, ((relayAnswers filledText).answer turn (.sign k e)).1 =
      Connections.signHere k e) ∧
    relayPipeline.takesRelay memoRequest = true ∧
    ∃ text reply k relayed b w,
      (⟨.submit text, reply⟩ : (c : Call) × c.Answer) ∈
        (relayPipeline.submit memoRequest).transcript (relayAnswers filledText).answer 0 ∧
      Relayed relayPipeline memoRequest
        ((relayPipeline.submit memoRequest).transcript (relayAnswers filledText).answer 0)
        text k relayed b w := by
  obtain ⟨b, t, hb, ht, -⟩ := filledText_read
  have hf : relayPipeline.foreign.Lawful := Wire.Foreign.lawful_none
  have hread :
      Envelope.ofTransactionText? relayPipeline.foreign filledText relayPipeline.network = _ :=
    Envelope.ofTransactionText?_of_decode? hb ht
  have hk : Keypair.ofSecret? memoRequest.source = some ⟨zeroKey⟩ := zeroRequest_source
  have hpath : relayPipeline.takesRelay memoRequest = true := by decide
  obtain ⟨text, reply, hsubmit⟩ := submits_of_relayed 0 (by rw [hk]; rfl) hpath (fun _ _ => rfl)
    hread (relayAnswers_sign filledText)
  obtain ⟨k, relayed, b, w, hrelayed, -⟩ := relayed_submission relayPipeline hf memoRequest
    (relayAnswers filledText).answer 0 (relayAnswers_sign filledText) hpath hsubmit
  exact ⟨hf, relayAnswers_sign filledText, hpath, text, reply, k, relayed, b, w, hsubmit, hrelayed⟩

/-- Not every transaction that is taken from a text is written with the octets that it was read
from. -/
theorem not_always_kept :
    ¬ ∀ (f : Wire.Foreign) (text : Text) (network : String) (e : Envelope) (b : Octets),
      f.Lawful → Envelope.ofTransactionText? f text network = some e →
        Envelope.spelt? text = some b → e.transaction.encode? = some b := by
  intro halways
  obtain ⟨b, t, hb, ht, hother⟩ := filledText_read
  exact hother (halways .none filledText "" _ b Wire.Foreign.lawful_none
    (Envelope.ofTransactionText?_of_decode? hb ht) hb)

end Pipeline

end Remittance
