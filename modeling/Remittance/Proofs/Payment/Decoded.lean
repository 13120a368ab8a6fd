import Remittance.Proofs.Ledger.Envelope
import Remittance.Proofs.Payment.Signing

/-!
# What becomes of a decoded transaction

A transaction that is taken from a text has one canonical spelling: it can be written, what is
written is taken as the same transaction, and so nothing changes from then on. The main statement
`decoded_submission` follows this to the ledger. What a compliance relay has sent never fails at the
signer, and the envelope that is submitted for it holds that transaction, whose hash is the one that
is reported. Parts of kinds that this library does not know may be read by any lawful reader.
-/

set_option autoImplicit false

namespace Remittance

/-- An envelope that was taken from a text is written, and what is written of its transaction is
taken as the same envelope. -/
theorem Envelope.exists_canonical {f : Wire.Foreign} (hf : f.Lawful) {text : Text}
    {network : String} {e : Envelope} (hread : ofTransactionText? f text network = some e) :
    ∃ w, e.transaction.toWire? = some w ∧ w.Known f ∧ Transaction.ofWire? w = some e.transaction ∧
      e.encode = .ok (w.envelope ⟨[], Nat.zero_le _⟩) ∧
      e.hash = .ok (Sha2.sha256 (payload network w.octets)) ∧
      ∀ text', spelt? text' = some w.octets → ofTransactionText? f text' network = some e := by
  obtain ⟨b, t, hb, ht, rfl⟩ := ofTransactionText?_eq_some_iff.mp hread
  obtain ⟨w, hw, hwire⟩ := Transaction.toWire?_of_decode? ht
  obtain ⟨hsound, hknown⟩ := Transaction.isSound_of_decode? hf ht
  have hencode : t.encode? = some w.fitted.octets := by
    rw [Transaction.encode?, hwire]
    rfl
  refine ⟨w.fitted, hwire, hknown.of_toWire? hwire, Transaction.ofWire?_of_toWire? hsound hwire,
    ?_, ?_, ?_⟩
  · exact encode_eq_ok_iff.mpr ⟨w.fitted, _, hwire, rfl, rfl⟩
  · rw [hash, unsigned, hencode]
  · intro text' htext'
    exact ofTransactionText?_of_decode? htext' (hsound.decode?_encode hf hknown hencode)

/-- A signed text spells its envelope, if the parts of its transaction are known. -/
theorem SignedText.readAll?_envelope {f : Wire.Foreign} (hf : f.Lawful) {k : Keypair}
    {network text : String} {w : Wire.Transaction} {signature : Signature} (hknown : w.Known f)
    (hsigned : SignedText k network w text signature) :
    (Base64.decode? text).bind (Wire.envelope f).readAll? =
      some (w, ⟨[signature], Nat.le_add_left 1 19⟩) := by
  rw [hsigned.text, Base64.decode?_encode, Option.bind_some]
  exact Wire.readAll?_envelope hf hknown _

namespace Pipeline

variable {p : Pipeline} {request : PaymentRequest} {h : CallTranscript} {q q' : Progress}

/-- What goes to the ledger for a transaction that a relay has sent spells it, and the hash that the
signer has reported is its hash. -/
theorem Course.resubmitted (hf : p.foreign.Lawful) {e : Except Stop (Json × String)}
    {text : String} {reply : Reply Json}
    (hcourse : Course p request q h e q') (hpath : p.takesRelay request = true)
    (hsigner : ∀ k envelope reply, (⟨.sign k envelope, reply⟩ : (c : Call) × c.Answer) ∈ h →
      reply = Connections.signHere k envelope)
    (hsubmit : (⟨.submit text, reply⟩ : (c : Call) × c.Answer) ∈ h) :
    ∃ asked sent envelope w signatures,
      (⟨.relay asked, .value sent⟩ : (c : Call) × c.Answer) ∈ h ∧
      Envelope.ofTransactionText? p.foreign sent p.network = some envelope ∧
      (Base64.decode? text).bind (Wire.envelope p.foreign).readAll? = some (w, signatures) ∧
      Transaction.ofWire? w = some envelope.transaction ∧
      ∀ k envelope signed, (⟨.sign k envelope, .value signed⟩ : (c : Call) × c.Answer) ∈ h →
        signed.hash = Octets.hex (Sha2.sha256 (Envelope.payload p.network w.octets)) := by
  obtain ⟨k, sent, envelope, signed, hk, hread, rfl, rfl⟩ :=
    hcourse.relayed_of_submit hpath hsubmit
  obtain ⟨w, hwire, hknown, hback, -⟩ := Envelope.exists_canonical hf hread
  obtain ⟨-, -, -, -, -, hunsigned, hnetwork⟩ := Envelope.exists_read hread
  have hsigned : Connections.signHere k envelope = .value signed :=
    (hsigner k envelope (.value signed) (by simp)).symm
  obtain ⟨w', signature, hwire', htext⟩ := signedText_of_signHere hunsigned hsigned
  cases hwire.symm.trans hwire'
  refine ⟨relayRequest request k, sent, envelope, w, _, by simp, hread,
    htext.readAll?_envelope hf hknown, hback, ?_⟩
  intro k' envelope' signed' hin
  -- The one signer's call of the run is that of the key pair of the request.
  have hsame : signed' = signed := by
    simp only [List.mem_cons, List.not_mem_nil, or_false] at hin
    rcases hin with hin | hin | hin <;> cases hin
    rfl
  rw [hsame, hash_of_signHere hwire hsigned, hnetwork]
  rfl

/-- A run whose transaction a relay has sent does not fail right after it came to the signer. -/
theorem not_failed_at_signing_of_relay (hf : p.foreign.Lawful) {σ : Type}
    {answer : σ → (c : Call) → c.Answer × σ} {s : σ}
    (hsigner : ∀ s k e, (answer s (.sign k e)).1 = Connections.signHere k e)
    (hpath : p.takesRelay request = true) :
    ¬ [.signed, .failed] <:+ ((p.submit request).run answer s).1.2.trail := by
  intro hfailed
  have hsigned : .signed ∈ ((p.submit request).run answer s).1.2.trail :=
    hfailed.subset List.mem_cons_self
  obtain ⟨k, envelope, q₁, h₁, hmaking, hiff⟩ := failed_at_signing_iff hsigner hsigned
  cases hmaking with
  | relay reply made hpath' hend =>
    obtain ⟨text, rfl, hread⟩ := judged_relayed_eq_ok hend.symm
    obtain ⟨w, hwire, -⟩ := Envelope.exists_canonical hf hread
    refine hiff.mp hfailed (Transaction.isSome_encode?_iff.mp ?_)
    rw [Transaction.encode?, hwire]
    rfl
  | direct h₁ made q₁ hdirect hassembly =>
    rw [hpath] at hdirect
    cases hdirect

/-- A transaction that is taken from a text is written without fail, what is written is taken as the
same transaction, and so it has the same octets and the same hash ever after. Where a relay's
transaction is signed here, the run does not fail right after it came to the signer; what it submits
spells the transaction that was taken from the relay's text, and the hash that the signer and the
outcome report is the hash of that transaction. -/
theorem decoded_submission :
    (∀ f : Wire.Foreign, f.Lawful → ∀ text network e,
      Envelope.ofTransactionText? f text network = some e →
      ∃ w, e.transaction.toWire? = some w ∧
        e.encode = .ok (w.envelope ⟨[], Nat.zero_le _⟩) ∧
        e.hash = .ok (Sha2.sha256 (Envelope.payload network w.octets)) ∧
        ∀ text', Envelope.spelt? text' = some w.octets →
          Envelope.ofTransactionText? f text' network = some e) ∧
    ∀ p : Pipeline, p.foreign.Lawful → ∀ (request : PaymentRequest) (σ : Type)
      (answer : σ → (c : Call) → c.Answer × σ) (s : σ),
      (∀ s k e, (answer s (.sign k e)).1 = Connections.signHere k e) →
      p.takesRelay request = true →
      ¬ [.signed, .failed] <:+ ((p.submit request).run answer s).1.2.trail ∧
      ∀ text reply, ⟨.submit text, reply⟩ ∈ (p.submit request).transcript answer s →
        ∃ asked sent e w signatures,
          ⟨.relay asked, .value sent⟩ ∈ (p.submit request).transcript answer s ∧
          Envelope.ofTransactionText? p.foreign sent p.network = some e ∧
          (Base64.decode? text).bind (Wire.envelope p.foreign).readAll? = some (w, signatures) ∧
          Transaction.ofWire? w = some e.transaction ∧
          (∀ k envelope signed,
            ⟨.sign k envelope, .value signed⟩ ∈ (p.submit request).transcript answer s →
            signed.hash = Octets.hex (Sha2.sha256 (Envelope.payload p.network w.octets))) ∧
          ∀ o txHash, ((p.submit request).run answer s).1.1 = .outcome o →
            o.txHash = some txHash →
              txHash = Octets.hex (Sha2.sha256 (Envelope.payload p.network w.octets)) := by
  constructor
  · intro f hf text network e hread
    obtain ⟨w, hwire, -, -, hcanonical⟩ := Envelope.exists_canonical hf hread
    exact ⟨w, hwire, hcanonical⟩
  · intro p hf request σ answer s hsigner hpath
    refine ⟨not_failed_at_signing_of_relay hf hsigner hpath, ?_⟩
    intro text reply hsubmit
    obtain ⟨e, q', hcourse, heq⟩ := course_of_goes (Dialogue.goes_run answer s (p.submit request))
    have hhere : ∀ k envelope reply, (⟨.sign k envelope, reply⟩ : (c : Call) × c.Answer) ∈
        (p.submit request).transcript answer s → reply = Connections.signHere k envelope := by
      intro k envelope reply hin
      obtain ⟨s', hreply⟩ := Dialogue.exists_state_of_mem_transcript answer s _ hin
      rw [← hreply, hsigner]
    obtain ⟨asked, sent, envelope, w, signatures, hsent, hread, hspelt, hback, hhash⟩ :=
      hcourse.resubmitted hf hpath hhere hsubmit
    refine ⟨asked, sent, envelope, w, signatures, hsent, hread, hspelt, hback, hhash, ?_⟩
    intro o txHash hended hreported
    rw [heq] at hended
    obtain ⟨k', envelope', signed, hsigned, rfl⟩ := hcourse.signed_of_txHash hended hreported
    exact hhash k' envelope' signed hsigned

/-- The payment that a relay has sent with a memo which is filled up otherwise is decoded again with
zeros, is signed, and is submitted as it was decoded. -/
theorem filled_payment_canonical :
    relayPipeline.foreign.Lawful ∧
    (∃ e, Envelope.ofTransactionText? relayPipeline.foreign filledText relayPipeline.network =
      some e) ∧
    (∀ turn k e, ((relayAnswers filledText).answer turn (.sign k e)).1 =
      Connections.signHere k e) ∧
    relayPipeline.takesRelay memoRequest = true ∧
    ¬ [.signed, .failed] <:+ ((relayPipeline.submit memoRequest).run
      (relayAnswers filledText).answer 0).1.2.trail ∧
    ∃ text w signatures, (Base64.decode? text).bind (Wire.envelope relayPipeline.foreign).readAll? =
        some (w, signatures) ∧
      ∃ reply, ⟨.submit text, reply⟩ ∈
        (relayPipeline.submit memoRequest).transcript (relayAnswers filledText).answer 0 := by
  obtain ⟨b, t, hb, ht, -⟩ := filledText_read
  have hf : relayPipeline.foreign.Lawful := Wire.Foreign.lawful_none
  have hread :
      Envelope.ofTransactionText? relayPipeline.foreign filledText relayPipeline.network = _ :=
    Envelope.ofTransactionText?_of_decode? hb ht
  have hk : Keypair.ofSecret? memoRequest.source = some ⟨zeroKey⟩ := zeroRequest_source
  have hpath : relayPipeline.takesRelay memoRequest = true := by decide
  obtain ⟨text, reply, hsubmit⟩ := submits_of_relayed 0 (by rw [hk]; rfl) hpath (fun _ _ => rfl)
    hread (relayAnswers_sign filledText)
  obtain ⟨hnever, hall⟩ := decoded_submission.2 relayPipeline hf memoRequest Nat
    (relayAnswers filledText).answer 0 (relayAnswers_sign filledText) hpath
  obtain ⟨-, -, -, w, signatures, -, -, hspelt, -⟩ := hall text reply hsubmit
  exact ⟨hf, ⟨_, hread⟩, relayAnswers_sign filledText, hpath, hnever, text, w, signatures, hspelt,
    reply, hsubmit⟩

end Pipeline

end Remittance
