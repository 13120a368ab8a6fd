import Remittance.Proofs.Payment.Order
import Remittance.Proofs.Payment.Protocol
import Remittance.Proofs.Payment.Signature

/-!
# What is submitted

The text that goes to the ledger when a transaction was assembled here and signed by the key pair of
the request. The main statement is that it is an envelope with one signature over a transaction that
says what was asked for: by the request, by the resolver, by the ledger's accounts and by the
pipeline. Of all that only the end of the time window can be lost, where it does not fit the wire.
-/

set_option autoImplicit false

namespace Remittance

namespace Pipeline

/-- The last second at which a transaction that is assembled now is valid: the whole seconds of the
clock and the timeout, or none at all without a timeout, which is written as zero. -/
def closing (p : Pipeline) : Int :=
  if p.timeout ≤ 0 then 0 else p.clock.truncate?.getD 0 + p.timeout

/-- What was submitted for a request, where its transaction was assembled here: what the calls were,
what they gave, and what the text says. The window ends at the last 64 bits of the closing second.
-/
structure Submitted (p : Pipeline) (request : PaymentRequest) (h : CallTranscript) (text : String)
    (k : Keypair) (d : Destination) (look : CallTranscript) (t : Transfer) (snapshot : Snapshot)
    (m : Memo) (w : Wire.Transaction) : Prop where
  source : Keypair.ofSecret? request.source = some k
  calls : ∃ envelope signed reply,
    h = ⟨.resolve request.destination, .value d⟩ :: (look ++
      [⟨.account k.accountId, .value snapshot⟩, ⟨.sign k envelope, .value signed⟩,
        ⟨.submit text, reply⟩])
  chosen : Chosen request d look t
  alone : d.mandatesMemo = true → request.memoType = "" ∧ request.memo = ""
  parsed : MemoPolicy.parse (request.memoPair d).1 (request.memoPair d).2 = .ok m
  signed : ∃ signature, SignedText k p.network w text signature
  party : w.source = Party.ofKey k.publicKey
  sequence : w.sequence.toInt = snapshot.sequence + 1
  fee : (w.fee.toNat : Int) = p.baseFee
  timed : 0 < p.timeout → (p.clock.truncate?).isSome = true
  window : w.conditions = .time ⟨0, UInt64.ofNat p.closing.toNat⟩ ∧ 0 ≤ p.closing
  memo : m.toLedger? = some w.memo
  operation : ∃ action, w.operations.val = [⟨none, action⟩] ∧ Carries t action
  ending : w.ending = none

/-- The window of a transaction is the one that was asked for: it opens at once and ends at the
closing second. -/
def WindowKept (p : Pipeline) (w : Wire.Transaction) : Prop :=
  ∃ b, w.conditions = .time b ∧ b.min = 0 ∧ (b.max.toNat : Int) = p.closing

variable {p : Pipeline} {request : PaymentRequest}

/-- A transaction that is assembled here has parts of known kinds only. -/
theorem Submitted.isNative {h : CallTranscript} {text : String} {k : Keypair} {d : Destination}
    {look : CallTranscript} {t : Transfer} {snapshot : Snapshot} {m : Memo} {w : Wire.Transaction}
    (hsubmitted : Submitted p request h text k d look t snapshot m w) : w.IsNative := by
  obtain ⟨action, hoperations, hcarries⟩ := hsubmitted.operation
  refine ⟨fun op hop => ?_, hsubmitted.ending⟩
  rw [hoperations, List.mem_singleton] at hop
  subst hop
  exact hcarries.foreign?_eq_none

/-- The window is kept exactly if the closing second fits the wire. -/
theorem windowKept_iff {w : Wire.Transaction} (hpos : 0 ≤ p.closing)
    (hwindow : w.conditions = .time ⟨0, UInt64.ofNat p.closing.toNat⟩) :
    WindowKept p w ↔ p.closing < 2 ^ 64 := by
  have hcut : (UInt64.ofNat p.closing.toNat).toNat = p.closing.toNat % 2 ^ 64 :=
    UInt64.toNat_ofNat'
  constructor
  · rintro ⟨b, hconditions, -, hmax⟩
    rw [hwindow] at hconditions
    cases hconditions
    rw [hcut] at hmax
    omega
  · intro hsmall
    refine ⟨_, hwindow, rfl, ?_⟩
    rw [hcut]
    omega

/-- A memo is decided only where the pairs of the request and the destination agree, and then by one
of the pairs. -/
theorem parse_of_decide {d : Destination} {m : Memo}
    (hdecide : MemoPolicy.decide request.memoType request.memo d = .ok m) :
    (d.mandatesMemo = true → request.memoType = "" ∧ request.memo = "") ∧
      MemoPolicy.parse (request.memoPair d).1 (request.memoPair d).2 = .ok m := by
  have hpaired : request.memoType.isEmpty = request.memo.isEmpty := by
    unfold MemoPolicy.decide at hdecide
    split at hdecide
    · cases hdecide
    · rename_i hpaired
      simpa using hpaired
  have halone : d.mandatesMemo = true → request.memoType.isEmpty = true := by
    intro hmandates
    obtain ⟨demanded, hdemand⟩ := Option.isSome_iff_exists.mp hmandates
    unfold MemoPolicy.decide at hdecide
    rw [if_neg (by simp [hpaired]), hdemand] at hdecide
    dsimp only at hdecide
    split at hdecide
    · rename_i hempty
      exact hempty
    · cases hdecide
  rw [MemoPolicy.decide_eq_parse hpaired halone] at hdecide
  refine ⟨?_, hdecide⟩
  intro hmandates
  have hempty := halone hmandates
  exact ⟨Text.isEmpty_iff.mp hempty, Text.isEmpty_iff.mp (hpaired ▸ hempty)⟩

/-- The time bounds of a pipeline on the wire. -/
theorem bounds_eq_ok {b : Option TimeBounds} (hbounds : p.bounds = .ok b) :
    (0 < p.timeout → (p.clock.truncate?).isSome = true) ∧ 0 ≤ p.closing ∧
      (b.getD .always).toWire = ⟨0, UInt64.ofNat p.closing.toNat⟩ := by
  unfold bounds at hbounds
  unfold closing
  split at hbounds
  · rename_i hnone
    cases hbounds
    rw [if_pos hnone]
    exact ⟨fun hsome => absurd hsome (by omega), Int.le_refl 0, rfl⟩
  · rename_i hsome
    rw [if_neg hsome]
    split at hbounds
    · rename_i now hnow
      rw [hnow, Option.getD_some]
      split at hbounds
      · rename_i bounds hints
        cases hbounds
        unfold TimeBounds.ofInts at hints
        rw [if_neg (by decide)] at hints
        split at hints
        · cases hints
        · rename_i hpos
          split at hints
          · cases hints
            exact ⟨fun _ => rfl, by omega, rfl⟩
          · cases hints
      · cases hbounds
    · cases hbounds

/-- The time bounds of a pipeline with a timeout, where the seconds are bounds. -/
theorem bounds_of_ofInts {now : Int} {b : TimeBounds} (hpos : 0 < p.timeout)
    (hnow : p.clock.truncate? = some now) (hints : TimeBounds.ofInts 0 (now + p.timeout) = .ok b) :
    p.bounds = .ok (some b) := by
  unfold bounds
  rw [if_neg (Int.not_le.mpr hpos), hnow]
  dsimp only
  rw [hints]

/-- An envelope is assembled exactly if it is built of its parts, with the time bounds of the
pipeline. -/
theorem envelope_eq_ok_iff {source : Text} {snapshot : Snapshot} {t : Transfer} {m : Memo}
    {e : Envelope} : p.envelope source snapshot t m = .ok e ↔
      ∃ b, p.bounds = .ok b ∧
        build ⟨p.network, source, snapshot, t, m, p.baseFee, b⟩ = .ok e := by
  unfold envelope
  rw [bind_eq_ok_iff]
  refine exists_congr fun b => and_congr_right fun _ => ?_
  dsimp only
  cases build ⟨p.network, source, snapshot, t, m, p.baseFee, b⟩ with
  | ok e' =>
    constructor
    · intro hbuild
      cases hbuild
      rfl
    · intro hbuild
      cases hbuild
      rfl
  | error f =>
    constructor
    · intro hbuild
      cases hbuild
    · intro hbuild
      cases hbuild

/-- What is submitted after an assembly and a signature made here. -/
theorem submitted_of_assembly {k : Keypair} {q q' : Progress} {h : CallTranscript}
    {envelope : Envelope} {signed : Signed} (reply : Reply Json)
    (hk : Keypair.ofSecret? request.source = some k)
    (hassembly : Assembly p request k q h (.ok envelope) q')
    (hsigned : Connections.signHere k envelope = .value signed) :
    ∃ d look t snapshot m w, Submitted p request
      (h ++ [⟨.sign k envelope, .value signed⟩, ⟨.submit signed.envelope, reply⟩])
      signed.envelope k d look t snapshot m w := by
  cases hassembly with
  | build d look t m snapshot e hchosen hmemo hend =>
    obtain ⟨b, hbounds, hbuild⟩ := envelope_eq_ok_iff.mp (mapError_eq_ok_iff.mp hend.symm)
    obtain ⟨w, signature, hwire, htext⟩ :=
      signedText_of_signHere (Build.unsigned_of_build hbuild) hsigned
    obtain ⟨hwritten, hnetwork⟩ := Build.written_of_build hbuild hwire
    obtain ⟨halone, hparsed⟩ := parse_of_decide (decide_of_memoVerdict hmemo)
    obtain ⟨htimed, hclosing, hwindow⟩ := bounds_eq_ok hbounds
    obtain ⟨key, hparty, hkey⟩ := hwritten.source
    obtain rfl : key = k.publicKey := Key.accountId_injective (Text.ofString_inj.mp hkey)
    have hconditions := hwritten.conditions
    refine ⟨d, look, t, snapshot, m, w, hk, ⟨envelope, signed, reply, ?_⟩, hchosen, halone,
      hparsed, ⟨signature, ?_⟩, hparty, hwritten.sequence, hwritten.fee, htimed, ⟨?_, hclosing⟩,
      hwritten.memo, hwritten.operation, hwritten.ending⟩
    · simp
    · rw [hnetwork] at htext
      exact htext
    · rw [hconditions]
      exact congrArg Wire.Conditions.time hwindow

/-- A run that assembles here and submits has made the envelope by an assembly, and submits what the
signer gave back for it. -/
theorem Course.direct_of_submit {records : List Record} {q' : Progress} {h : CallTranscript}
    {e : Except Stop (Json × String)} {text : String} {reply : Reply Json}
    (hcourse : Course p request ⟨[.start], records⟩ h e q') (hdirect : .directAssembly ∈ q'.trail)
    (hsubmit : (⟨.submit text, reply⟩ : (c : Call) × c.Answer) ∈ h) :
    ∃ k envelope signed q q₁ h₁, Keypair.ofSecret? request.source = some k ∧
      Assembly p request k q h₁ (.ok envelope) q₁ ∧ text = signed.envelope ∧
      h = h₁ ++ [⟨.sign k envelope, .value signed⟩, ⟨.submit text, reply⟩] := by
  obtain ⟨k, envelope, signed, q₁, h₁, hk, hmaking, htext, rfl, -, rfl⟩ := hcourse.of_submit hsubmit
  cases hmaking with
  | relay reply' e' hpath hend => simp at hdirect
  | direct h₁ e' q₁ hpath hassembly =>
    exact ⟨k, envelope, signed, _, q₁, h₁, hk, hassembly, htext, rfl⟩

/-- A run that does not take the relay's way, and has no fault in any of its stages, assembles and
submits something. -/
theorem submits_of_no_fault {p : Pipeline} {request : PaymentRequest} {b : Behaviour}
    (hpath : p.takesRelay request = false)
    (hnone : ∀ stage ∈ p.order request, b.fault p request stage = none)
    (hcaught : ∀ d escape, b.resolved request = .ok d → ¬ request.MemoEscapes d escape) :
    .directAssembly ∈ ((p.submit request).run b.answer 0).1.2.trail ∧
      ∃ text reply, (⟨.submit text, reply⟩ : (c : Call) × c.Answer) ∈
        (p.submit request).transcript b.answer 0 := by
  obtain ⟨e, q', hcourse, heq⟩ := course_of_goes (Dialogue.goes_run b.answer 0 (p.submit request))
  have hagrees : b.Agrees 0 ((p.submit request).transcript b.answer 0) :=
    Behaviour.agrees_transcript (p.submit request)
  obtain ⟨⟨last, -, htrail⟩, -⟩ := conclude_trail e q'
  rw [heq, htrail]
  generalize (p.submit request).transcript b.answer 0 = h at hcourse hagrees
  have hmemo : ∀ escape, e ≠ .error (.escaped escape) := by
    rintro escape rfl
    obtain ⟨d, hresolved, hescapes⟩ := (hcourse.escaped_iff.mp rfl).resolved hagrees
    exact hcaught d escape hresolved hescapes
  obtain ⟨result, rfl, -⟩ | ⟨c, rfl, hsettled⟩ := hcourse.settled hagrees hmemo
  · cases hcourse with
    | submission k h envelope q₁ signed reply e hk hmaking hend =>
      refine ⟨List.mem_append_left _ ?_, signed.envelope, reply, by simp⟩
      cases hmaking with
      | relay reply' e' hpath' hend' =>
        rw [hpath] at hpath'
        cases hpath'
      | direct h e' q₁ hpath' hassembly => simp [hassembly.way.1]
  · have hverdict := List.findSome?_eq_none_iff.mpr hnone
    rw [hsettled.verdict_eq] at hverdict
    cases hverdict

/-- Collaborators that know every account, and a signer that signs here. -/
def signingAnswers : Behaviour
  | _, .sign k e => (e.sign k).2.mapError .signing
  | turn, c => Behaviour.plain turn c

/-- These collaborators sign as is done here. -/
theorem signingAnswers_sign (turn : Nat) (k : Keypair) (e : Envelope) :
    (signingAnswers.answer turn (.sign k e)).1 = Connections.signHere k e := by
  unfold Connections.signHere
  show Reply.ofExcept ((e.sign k).2.mapError .signing) = _
  cases (e.sign k).2 <;> rfl

/-- The key of zeros, as a seed and as the key of an account. -/
def zeroKey : Key := ⟨List.replicate 32 0, rfl⟩

/-- A request from the key pair of the seed of zeros for one unit of the native asset. -/
def zeroRequest : PaymentRequest where
  source := Key.encode Key.seedVersion zeroKey.val
  destination := zeroKey.accountId
  amount := "1"

/-- The secret of that request is the key of zeros. -/
theorem zeroRequest_source : Keypair.ofSecret? zeroRequest.source = some ⟨zeroKey⟩ := by
  have hseed : Key.ofSecret? zeroRequest.source = some zeroKey := Key.decode?_eq_some_iff.mpr rfl
  rw [Keypair.ofSecret?, hseed]
  rfl

/-- The parts of that payment. -/
def zeroParts (p : Pipeline) (b : Option TimeBounds) (k : Keypair) : Parts :=
  ⟨p.network, k.accountId, ⟨k.accountId, 1⟩, .payment zeroKey.accountId "1" .native, .none,
    p.baseFee, b⟩

/-- The parts of that payment are built, and what is built can be encoded. -/
theorem build_zeroParts {p : Pipeline} (hnetwork : p.network.isEmpty = false)
    (hfee : 0 ≤ p.baseFee ∧ p.baseFee < 0x100000000) (b : Option TimeBounds) (k : Keypair) :
    ∃ e, build (zeroParts p b k) = .ok e ∧ e.transaction.encode?.isSome = true := by
  have hsource : isAccountId k.accountId = true := Key.isAccountId_accountId k.publicKey
  have hdestination : isAccountId zeroKey.accountId = true := Key.isAccountId_accountId zeroKey
  have hparse : Amount.parse "1" = .ok 10000000 := by decide +kernel
  have hcheck : Build.check (zeroParts p b k) = .ok () := by
    unfold Build.check
    refine bind_eq_ok_iff.mpr ⟨(), ?_, bind_eq_ok_iff.mpr ⟨(), ?_, bind_eq_ok_iff.mpr ⟨(), ?_,
      bind_eq_ok_iff.mpr ⟨(), rfl, bind_eq_ok_iff.mpr ⟨(), ?_, bind_eq_ok_iff.mpr ⟨(), rfl,
        bind_eq_ok_iff.mpr ⟨(), ?_, rfl⟩⟩⟩⟩⟩⟩⟩
    · exact Build.require_eq_ok_iff.mpr (by rw [zeroParts, hnetwork]; rfl)
    · exact Build.require_eq_ok_iff.mpr hsource
    · exact Build.require_eq_ok_iff.mpr (beq_self_eq_true (k.accountId : Text))
    · exact Build.require_eq_ok_iff.mpr hdestination
    · show Build.checkAmount "1" = _
      rw [Build.checkAmount, hparse]
  have haccount : Admission.account k.accountId = .ok k.publicKey := by
    have hread : Key.ofAccountId? k.accountId = some k.publicKey := Key.ofAccountId?_accountId _
    rw [Admission.account, hread]
  have hparty : Admission.party zeroKey.accountId = .ok (Party.ofKey zeroKey) := by
    rw [Admission.party, Party.ofText?, Key.ofAccountId?_accountId]
  have haction : Build.ledgerAction (zeroParts p b k).transfer =
      .ok (.payment (Party.ofKey zeroKey) .native (Int64.ofNat 10000000)) :=
    bind_eq_ok_iff.mpr ⟨_, rfl, bind_eq_ok_iff.mpr ⟨_, hparty, bind_eq_ok_iff.mpr
      ⟨_, Admission.amount_of_parse .payment hparse, rfl⟩⟩⟩
  have hassemble : ∃ t, Build.assemble (zeroParts p b k) = .ok t ∧ t.encode?.isSome = true := by
    refine ⟨_, bind_eq_ok_iff.mpr ⟨_, haccount, bind_eq_ok_iff.mpr ⟨_, haction,
      bind_eq_ok_iff.mpr ⟨_, rfl, rfl⟩⟩⟩, ?_⟩
    rw [Transaction.encode?, Option.isSome_map]
    unfold Transaction.toWire?
    simp only [zeroParts, hfee]
    rfl
  obtain ⟨t, ht, hencode⟩ := hassemble
  refine ⟨.unsigned t p.network, bind_eq_ok_iff.mpr ⟨_, hcheck, ?_⟩, hencode⟩
  rw [ht]
  rfl

/-- That payment has no memo that could escape. -/
theorem zeroRequest_caught (d : Destination) (escape : Escape)
    (hresolved : signingAnswers.resolved zeroRequest = .ok d) :
    ¬ zeroRequest.MemoEscapes d escape := by
  intro hmemo
  have hd : { accountId := zeroRequest.destination } = d := Except.ok.inj hresolved
  subst hd
  cases MemoPolicy.parse_eq_escape_iff.mpr hmemo.memo

/-- That payment goes through. -/
theorem zeroRequest_no_fault {p : Pipeline} {b : Option TimeBounds}
    (hnetwork : p.network.isEmpty = false) (hfee : 0 ≤ p.baseFee ∧ p.baseFee < 0x100000000)
    (hbounds : p.bounds = .ok b) :
    ∀ stage ∈ p.order zeroRequest, signingAnswers.fault p zeroRequest stage = none := by
  obtain ⟨envelope, hbuild, hfits⟩ := build_zeroParts hnetwork hfee b ⟨zeroKey⟩
  obtain ⟨signed, hsign⟩ := exists_signed (k := ⟨zeroKey⟩) (Build.unsigned_of_build hbuild) hfits
  have hall : Gathered signingAnswers zeroRequest ⟨zeroKey⟩ { accountId := zeroKey.accountId }
      (.payment zeroKey.accountId "1" .native) .none ⟨Keypair.accountId ⟨zeroKey⟩, 1⟩ :=
    ⟨zeroRequest_source, rfl, rfl, rfl, rfl⟩
  have hid : isAccountId zeroKey.accountId = true := Key.isAccountId_accountId zeroKey
  have hdirect : p.takesRelay zeroRequest = false := rfl
  have hbuilt : signingAnswers.built? p zeroRequest = some (.ok envelope) := by
    rw [hall.built, envelope_eq_ok_iff.mpr ⟨b, hbounds, hbuild⟩]
  have henvelope : signingAnswers.envelope? p zeroRequest = some envelope := by
    rw [Behaviour.envelope?, hdirect, hbuilt]
    rfl
  have hsigned : signingAnswers.signed? p zeroRequest = some (.ok signed) := by
    have hreply : Reply.ofExcept (signingAnswers (Behaviour.signTurn p zeroRequest)
        (.sign ⟨zeroKey⟩ envelope)) = .value signed := (signingAnswers_sign _ _ _).trans hsign
    rw [Behaviour.signed?, zeroRequest_source, henvelope]
    exact congrArg some (Reply.eq_ok_of_value hreply.symm)
  have hsubmitted : signingAnswers.submitted? p zeroRequest = some (.ok .null) := by
    rw [Behaviour.submitted?, hsigned]
    rfl
  have horder : p.order zeroRequest = [.source, .resolution, .accountId, .assetFields, .issuer,
      .lookup, .memo, .load, .build, .signing, .submission] := rfl
  rw [horder]
  simp only [List.forall_mem_cons, List.not_mem_nil, false_implies, implies_true, and_true]
  refine ⟨?_, rfl, ?_, rfl, rfl, rfl, rfl, ?_, ?_, ?_, ?_⟩
  · simp [Behaviour.fault, zeroRequest_source]
  · have hresolved : signingAnswers.resolved zeroRequest =
        .ok { accountId := zeroKey.accountId } := rfl
    simp [Behaviour.fault, hresolved, hid, Except.toOption]
  · have hloaded : signingAnswers.loaded zeroRequest ⟨zeroKey⟩ =
        .ok ⟨Keypair.accountId ⟨zeroKey⟩, 1⟩ := rfl
    simp [Behaviour.fault, zeroRequest_source, hloaded, failureCode]
  · simp [Behaviour.fault, hbuilt, failureCode]
  · simp [Behaviour.fault, hsigned, failureCode]
  · simp [Behaviour.fault, hsubmitted, failureCode]

/-- A pipeline that assembles payments for so many seconds from a fixed time on. -/
def timedPipeline (timeout : Int) : Pipeline where
  network := "Test SDF Network ; September 2015"
  timeout := timeout
  clock := .finite false 1700000000 0
  hasRelay := false

/-- Such a pipeline has time bounds. -/
theorem timedPipeline_bounds {timeout : Int} (hpos : 0 < timeout) :
    ∃ b, (timedPipeline timeout).bounds = .ok b := by
  have hnow : (timedPipeline timeout).clock.truncate? = some 1700000000 := by rfl
  have hints : ∃ b, TimeBounds.ofInts 0 (1700000000 + timeout) = .ok b := by
    unfold TimeBounds.ofInts
    rw [if_neg (by decide), if_neg (by omega), dif_pos (by omega)]
    exact ⟨_, rfl⟩
  obtain ⟨b, hb⟩ := hints
  exact ⟨some b, bounds_of_ofInts hpos hnow hb⟩

/-- Such a pipeline assembles and submits that payment. -/
theorem timedPipeline_submits {timeout : Int} (hpos : 0 < timeout) :
    .directAssembly ∈
        (((timedPipeline timeout).submit zeroRequest).run signingAnswers.answer 0).1.2.trail ∧
      ∃ text reply, (⟨.submit text, reply⟩ : (c : Call) × c.Answer) ∈
        ((timedPipeline timeout).submit zeroRequest).transcript signingAnswers.answer 0 := by
  obtain ⟨b, hbounds⟩ := timedPipeline_bounds hpos
  have hnetwork : ("Test SDF Network ; September 2015").isEmpty = false := by decide
  have hfee : 0 ≤ (100 : Int) ∧ (100 : Int) < 0x100000000 := by decide
  have hnone := zeroRequest_no_fault hnetwork hfee hbounds
  exact submits_of_no_fault rfl hnone zeroRequest_caught

/-- Whatever goes to the ledger after an assembly here, signed by the key pair of the request, is
what was asked for. The window is the one that was asked for if and only if its closing second fits
the wire. -/
theorem direct_submission (p : Pipeline) (request : PaymentRequest) {σ : Type}
    (answer : σ → (c : Call) → c.Answer × σ) (s : σ)
    (hsigner : ∀ s k e, (answer s (.sign k e)).1 = Connections.signHere k e)
    {text : String} {reply : Reply Json}
    (hdirect : .directAssembly ∈ ((p.submit request).run answer s).1.2.trail)
    (hsubmit : (⟨.submit text, reply⟩ : (c : Call) × c.Answer) ∈
      (p.submit request).transcript answer s) :
    ∃ k d look t snapshot m w,
      Submitted p request ((p.submit request).transcript answer s) text k d look t snapshot m w ∧
        (WindowKept p w ↔ p.closing < 2 ^ 64) := by
  have hgoes := Dialogue.goes_run answer s (p.submit request)
  have hmem := @Dialogue.exists_state_of_mem_transcript _ _ _ _ answer s (p.submit request)
  obtain ⟨e, q', hcourse, heq⟩ := course_of_goes hgoes
  -- The end of a run adds nothing but a last state, so the assembly was entered by the stages.
  have htrail : .directAssembly ∈ q'.trail := by
    obtain ⟨⟨last, hlast, htrail⟩, -⟩ := conclude_trail e q'
    rw [heq, htrail, List.mem_append] at hdirect
    refine hdirect.resolve_right fun hin => ?_
    rcases hlast _ hin with hdone | hfailed
    · cases hdone
    · cases hfailed
  generalize (p.submit request).transcript answer s = h at hcourse hmem hsubmit
  obtain ⟨k, envelope, signed, q, q₁, h₁, hk, hassembly, rfl, rfl⟩ :=
    hcourse.direct_of_submit htrail hsubmit
  obtain ⟨s', hsign⟩ := hmem (q := .sign k envelope) (r := .value signed) (by simp)
  rw [hsigner] at hsign
  obtain ⟨d, look, t, snapshot, m, w, hsubmitted⟩ := submitted_of_assembly reply hk hassembly hsign
  obtain ⟨hwindow, hpos⟩ := hsubmitted.window
  exact ⟨k, d, look, t, snapshot, m, w, hsubmitted, windowKept_iff hpos hwindow⟩

/-- A payment for half a minute is signed and submitted as it was asked for. -/
theorem half_minute_submitted :
    (∀ turn k e, (signingAnswers.answer turn (.sign k e)).1 = Connections.signHere k e) ∧
      ∃ text reply k d look t snapshot m w,
        .directAssembly ∈
          (((timedPipeline 30).submit zeroRequest).run signingAnswers.answer 0).1.2.trail ∧
        (⟨.submit text, reply⟩ : (c : Call) × c.Answer) ∈
          ((timedPipeline 30).submit zeroRequest).transcript signingAnswers.answer 0 ∧
        Submitted (timedPipeline 30) zeroRequest
          (((timedPipeline 30).submit zeroRequest).transcript signingAnswers.answer 0)
          text k d look t snapshot m w ∧
        WindowKept (timedPipeline 30) w := by
  refine ⟨signingAnswers_sign, ?_⟩
  have hpos : (0 : Int) < 30 := by decide
  obtain ⟨hdirect, text, reply, hsubmit⟩ := timedPipeline_submits hpos
  obtain ⟨k, d, look, t, snapshot, m, w, hsubmitted, hwindow⟩ := direct_submission
    (timedPipeline 30) zeroRequest signingAnswers.answer 0 signingAnswers_sign hdirect hsubmit
  refine ⟨text, reply, k, d, look, t, snapshot, m, w, hdirect, hsubmit, hsubmitted, ?_⟩
  exact hwindow.mpr (by decide)

/-- Not every window that is submitted is the one that was asked for: one of `2 ^ 64` seconds ends
when it begins. -/
theorem not_always_window :
    ¬ ∀ (p : Pipeline) (request : PaymentRequest) (σ : Type)
        (answer : σ → (c : Call) → c.Answer × σ) (s : σ) (text : String) (reply : Reply Json),
      (∀ s k e, (answer s (.sign k e)).1 = Connections.signHere k e) →
      .directAssembly ∈ ((p.submit request).run answer s).1.2.trail →
      (⟨.submit text, reply⟩ : (c : Call) × c.Answer) ∈ (p.submit request).transcript answer s →
      ∃ k d look t snapshot m w,
        Submitted p request ((p.submit request).transcript answer s) text k d look t snapshot m w ∧
          WindowKept p w := by
  intro halways
  have hlong : (0 : Int) < 0x10000000000000000 := by decide
  obtain ⟨hdirect, text, reply, hsubmit⟩ := timedPipeline_submits hlong
  obtain ⟨k, d, look, t, snapshot, m, w, hsubmitted, hwindow⟩ :=
    halways (timedPipeline 0x10000000000000000) zeroRequest Nat signingAnswers.answer 0 text reply
      signingAnswers_sign hdirect hsubmit
  obtain ⟨hconditions, hpos⟩ := hsubmitted.window
  have hsmall := (windowKept_iff hpos hconditions).mp hwindow
  exact absurd hsmall (by decide)

end Pipeline

end Remittance
