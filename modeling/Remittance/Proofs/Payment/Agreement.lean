import Remittance.Proofs.Ledger.Built
import Remittance.Proofs.Payment.Hash
import Remittance.Proofs.Payment.Relay
import Remittance.Proofs.Text.Base64

/-!
# The two ways of a payment agree

A transaction that is assembled here can as well be sent by a compliance relay. The main statement
is that a run which is sent the octets of what another run has assembled signs them alike: it hands
the same text to the ledger and reports the same hash. Main statement: `ways_agree`.
-/

set_option autoImplicit false

namespace Remittance

/-- Unsigned envelopes of the same octets on the same network are signed alike. -/
theorem signHere_congr {k : Keypair} {e e' : Envelope} {b : Octets} (hunsigned : e.signatures = [])
    (hunsigned' : e'.signatures = []) (hencode : e.transaction.encode? = some b)
    (hencode' : e'.transaction.encode? = some b) (hnetwork : e'.network = e.network) :
    Connections.signHere k e' = Connections.signHere k e := by
  obtain ⟨w, hwire, hw⟩ := Option.map_eq_some_iff.mp hencode
  obtain ⟨w', hwire', hw'⟩ := Option.map_eq_some_iff.mp hencode'
  have hoctets : w'.octets = w.octets := hw'.trans hw.symm
  rw [signHere_of_toWire? k hunsigned hwire, signHere_of_toWire? k hunsigned' hwire', hnetwork]
  simp only [Envelope.hashOf, Wire.Transaction.envelope, hoctets]

/-- The request with a further memo. -/
def PaymentRequest.withExtraMemo (request : PaymentRequest) (extraMemo : Text) : PaymentRequest :=
  { request with extraMemo := extraMemo }

namespace Pipeline

/-- The pipeline with a compliance relay. -/
def withRelay (p : Pipeline) : Pipeline := { p with hasRelay := true }

variable {p : Pipeline} {request : PaymentRequest} {k : Keypair} {q q' : Progress}
  {h : CallTranscript} {σ : Type}

/-- An envelope that was assembled and signed here is, by its octets, one that a relay can send: it
is read from their text, and signed alike. -/
theorem Assembly.sendable (hf : p.foreign.Lawful) {envelope : Envelope} {signed : Signed}
    (hassembly : Assembly p request k q h (.ok envelope) q')
    (hsigned : Connections.signHere k envelope = .value signed) :
    ∃ b envelope', envelope.transaction.encode? = some b ∧
      Envelope.ofTransactionText? p.foreign (Base64.encode b) p.network = some envelope' ∧
      Connections.signHere k envelope' = .value signed := by
  cases hassembly with
  | build d look t m snapshot e hchosen hmemo hend =>
    obtain ⟨bounds, hbounds, hbuild⟩ := envelope_eq_ok_iff.mp (mapError_eq_ok_iff.mp hend.symm)
    obtain ⟨-, -, hwindow⟩ := bounds_eq_ok hbounds
    have hunsigned := Build.unsigned_of_build hbuild
    cases hencode : envelope.transaction.encode? with
    | none =>
      rw [signHere_of_unwritable k hencode] at hsigned
      cases hsigned
    | some b =>
      obtain ⟨w, hwire, -⟩ := Option.map_eq_some_iff.mp hencode
      obtain ⟨-, hnetwork⟩ := Build.written_of_build hbuild hwire
      obtain ⟨t', hread, hencode'⟩ := Build.exists_decoded hf hbuild hencode hwindow
      refine ⟨b, .unsigned t' p.network, rfl, ?_, ?_⟩
      · exact Envelope.ofTransactionText?_of_decode? (Envelope.spelt?_encode b) hread
      · rw [← hsigned]
        exact signHere_congr hunsigned rfl hencode hencode' hnetwork.symm

/-- A run that takes the relay's way, is sent a transaction and signs it here makes three calls: it
asks the relay, signs what it was sent, and submits what was signed. -/
theorem transcript_of_sent {answer : σ → (c : Call) → c.Answer × σ} {text : Text}
    {envelope : Envelope} {signed : Signed} (s : σ) (hk : Keypair.ofSecret? request.source = some k)
    (hpath : p.takesRelay request = true) (hrelay : ∀ s r, (answer s (.relay r)).1 = .value text)
    (hread : Envelope.ofTransactionText? p.foreign text p.network = some envelope)
    (hsigner : ∀ s k e, (answer s (.sign k e)).1 = Connections.signHere k e)
    (hsigned : Connections.signHere k envelope = .value signed) :
    ∃ reply, (p.submit request).transcript answer s =
      [⟨.relay (relayRequest request k), .value text⟩, ⟨.sign k envelope, .value signed⟩,
        ⟨.submit signed.envelope, reply⟩] := by
  have hmem := @Dialogue.exists_state_of_mem_transcript _ _ _ _ answer s (p.submit request)
  obtain ⟨handed, reply, hsubmit⟩ :=
    submits_of_relayed s (by rw [hk]; rfl) hpath hrelay hread hsigner
  obtain ⟨e, q', hcourse, -⟩ := course_of_goes (Dialogue.goes_run answer s (p.submit request))
  obtain ⟨k', sent, envelope', signed', hk', hread', hhanded, hh⟩ :=
    hcourse.relayed_of_submit hpath hsubmit
  rw [hk] at hk'
  cases hk'
  rw [hh] at hmem ⊢
  obtain ⟨_, hsent⟩ := hmem (List.mem_cons_self)
  rw [hrelay] at hsent
  cases hsent
  rw [hread] at hread'
  cases hread'
  obtain ⟨_, hreply⟩ := hmem (List.mem_cons_of_mem _ List.mem_cons_self)
  rw [hsigner, hsigned] at hreply
  cases hreply
  exact ⟨reply, by rw [hhanded]⟩

/-- A state in the trail of a run that does not end it was entered by the stages. -/
theorem mem_trail_of_conclude {e : Except Stop (Json × String)} {state : PaymentState}
    (hmem : state ∈ (conclude (e, q)).2.trail) (hdone : state ≠ .done) (hfailed : state ≠ .failed) :
    state ∈ q.trail := by
  obtain ⟨⟨last, hlast, htrail⟩, -⟩ := conclude_trail e q
  rw [htrail, List.mem_append] at hmem
  refine hmem.resolve_right fun hin => ?_
  rcases hlast _ hin with heq | heq
  · exact hdone heq
  · exact hfailed heq

/-- A run enters the state of submission if and only if it hands something to the ledger. -/
theorem submitted_mem_iff (p : Pipeline) (request : PaymentRequest)
    (answer : σ → (c : Call) → c.Answer × σ) (s : σ) :
    .submitted ∈ ((p.submit request).run answer s).1.2.trail ↔
      ∃ text reply, (⟨.submit text, reply⟩ : (c : Call) × c.Answer) ∈
        (p.submit request).transcript answer s := by
  obtain ⟨e, q', hcourse, heq⟩ := course_of_goes (Dialogue.goes_run answer s (p.submit request))
  rw [heq]
  constructor
  · intro hmem
    obtain ⟨text, hasked⟩ :=
      hcourse.protocol.submitted.mp (mem_trail_of_conclude hmem nofun nofun)
    obtain ⟨⟨c, reply⟩, hin, rfl⟩ := List.mem_map.mp hasked
    exact ⟨text, reply, hin⟩
  · rintro ⟨text, reply, hin⟩
    obtain ⟨⟨last, -, htrail⟩, -⟩ := conclude_trail e q'
    rw [htrail]
    exact List.mem_append_left _
      (hcourse.protocol.submitted.mpr ⟨text, List.mem_map_of_mem hin⟩)

/-- The outcome of a run that signed once names the hash that was signed if it is done. -/
theorem txHash_of_signed {answer : σ → (c : Call) → c.Answer × σ} {s : σ} {envelope : Envelope}
    {signed : Signed} {o : Outcome}
    (hsigned : ⟨.sign k envelope, .value signed⟩ ∈ (p.submit request).transcript answer s)
    (hended : ((p.submit request).run answer s).1.1 = .outcome o) (hdone : o.state = .done) :
    o.txHash = some signed.hash := by
  obtain ⟨e, q', hcourse, heq⟩ := course_of_goes (Dialogue.goes_run answer s (p.submit request))
  rw [heq] at hended
  exact (hcourse.hashLeft hended hsigned).txHash_iff.1.mpr hdone

/-- What a run has assembled and submitted, a relay can send for the same request with a further
memo: then the run with the relay reads it, hands the same text to the ledger, and reports the same
hash. -/
theorem ways_agree (p : Pipeline) (hf : p.foreign.Lawful) (request : PaymentRequest)
    (answer : σ → (c : Call) → c.Answer × σ) (s : σ)
    (hsigner : ∀ s k e, (answer s (.sign k e)).1 = Connections.signHere k e)
    (hdirect : .directAssembly ∈ ((p.submit request).run answer s).1.2.trail)
    (hsubmitted : .submitted ∈ ((p.submit request).run answer s).1.2.trail) :
    ∃ k envelope signed reply b envelope',
      envelope.transaction.encode? = some b ∧
      ⟨.sign k envelope, .value signed⟩ ∈ (p.submit request).transcript answer s ∧
      ⟨.submit signed.envelope, reply⟩ ∈ (p.submit request).transcript answer s ∧
      (∀ o, ((p.submit request).run answer s).1.1 = .outcome o → o.state = .done →
        o.txHash = some signed.hash) ∧
      Envelope.ofTransactionText? p.foreign (Base64.encode b) p.network = some envelope' ∧
      ∀ extraMemo : Text, extraMemo ≠ "" →
        ∀ (τ : Type) (answer' : τ → (c : Call) → c.Answer × τ) (t : τ),
        (∀ t k e, (answer' t (.sign k e)).1 = Connections.signHere k e) →
        (∀ t r, (answer' t (.relay r)).1 = .value (Base64.encode b)) →
        (∃ reply', (p.withRelay.submit (request.withExtraMemo extraMemo)).transcript answer' t =
          [⟨.relay (relayRequest (request.withExtraMemo extraMemo) k), .value (Base64.encode b)⟩,
            ⟨.sign k envelope', .value signed⟩, ⟨.submit signed.envelope, reply'⟩]) ∧
        ∀ o, ((p.withRelay.submit (request.withExtraMemo extraMemo)).run answer' t).1.1 =
          .outcome o → o.state = .done → o.txHash = some signed.hash := by
  have hmem := @Dialogue.exists_state_of_mem_transcript _ _ _ _ answer s (p.submit request)
  obtain ⟨text, reply, hsubmit⟩ := (submitted_mem_iff p request answer s).mp hsubmitted
  obtain ⟨e, q', hcourse, heq⟩ := course_of_goes (Dialogue.goes_run answer s (p.submit request))
  rw [heq] at hdirect
  obtain ⟨k, envelope, signed, q, q₁, h₁, hk, hassembly, rfl, hh⟩ :=
    hcourse.direct_of_submit (mem_trail_of_conclude hdirect nofun nofun) hsubmit
  have hin : (⟨.sign k envelope, .value signed⟩ : (c : Call) × c.Answer) ∈
      (p.submit request).transcript answer s := by
    rw [hh]
    simp
  obtain ⟨s', hsigned⟩ := hmem hin
  rw [hsigner] at hsigned
  obtain ⟨b, envelope', hencode, hread, hsigned'⟩ := hassembly.sendable hf hsigned
  refine ⟨k, envelope, signed, reply, b, envelope', hencode, hin, hsubmit,
    fun o => txHash_of_signed hin, hread, ?_⟩
  intro extraMemo hmemo τ answer' t hsigner' hrelay
  have hk' : Keypair.ofSecret? (request.withExtraMemo extraMemo).source = some k := hk
  have hpath : p.withRelay.takesRelay (request.withExtraMemo extraMemo) = true :=
    takesRelay_iff.mpr ⟨hmemo, rfl⟩
  obtain ⟨reply', htranscript⟩ := transcript_of_sent t hk' hpath hrelay hread hsigner' hsigned'
  have hin' : (⟨.sign k envelope', .value signed⟩ : (c : Call) × c.Answer) ∈
      (p.withRelay.submit (request.withExtraMemo extraMemo)).transcript answer' t := by
    rw [htranscript]
    simp
  exact ⟨⟨reply', htranscript⟩, fun o => txHash_of_signed hin'⟩

/-- The payment of one unit that is assembled here is signed alike if a relay sends it. -/
theorem assembled_payment_relayed :
    (timedPipeline 30).foreign.Lawful ∧
    (∀ turn k e, (signingAnswers.answer turn (.sign k e)).1 = Connections.signHere k e) ∧
    .directAssembly ∈
      (((timedPipeline 30).submit zeroRequest).run signingAnswers.answer 0).1.2.trail ∧
    .submitted ∈ (((timedPipeline 30).submit zeroRequest).run signingAnswers.answer 0).1.2.trail ∧
    ∃ k signed reply reply' b envelope',
      ⟨.submit signed.envelope, reply⟩ ∈
        ((timedPipeline 30).submit zeroRequest).transcript signingAnswers.answer 0 ∧
      ((timedPipeline 30).withRelay.submit (zeroRequest.withExtraMemo "invoice 7")).transcript
          (relayAnswers (Base64.encode b)).answer 0 =
        [⟨.relay (relayRequest (zeroRequest.withExtraMemo "invoice 7") k),
            .value (Base64.encode b)⟩,
          ⟨.sign k envelope', .value signed⟩, ⟨.submit signed.envelope, reply'⟩] := by
  have hf : (timedPipeline 30).foreign.Lawful := Wire.Foreign.lawful_none
  obtain ⟨hdirect, hsubmit⟩ := timedPipeline_submits (by decide : (0 : Int) < 30)
  have hsubmitted :=
    (submitted_mem_iff (timedPipeline 30) zeroRequest signingAnswers.answer 0).mpr hsubmit
  obtain ⟨k, envelope, signed, reply, b, envelope', -, -, hin, -, -, hrelayed⟩ := ways_agree
    (timedPipeline 30) hf zeroRequest signingAnswers.answer 0 signingAnswers_sign hdirect hsubmitted
  obtain ⟨⟨reply', htranscript⟩, -⟩ := hrelayed "invoice 7" (by decide) Nat
    (relayAnswers (Base64.encode b)).answer 0 (relayAnswers_sign (Base64.encode b)) fun _ _ => rfl
  exact ⟨hf, signingAnswers_sign, hdirect, hsubmitted, k, signed, reply, reply', b, envelope', hin,
    htranscript⟩

end Pipeline

end Remittance
