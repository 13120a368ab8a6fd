import Remittance.Proofs.Payment.Trail

/-!
# The hash of a signed transaction

Once a transaction is signed it may reach the ledger, and its hash is what it can be found by. The
main statement is where the hash is after a run: an outcome that is done names it, and no other
outcome names any. What the ledger refused is named by the record of the refusal alone, and what was
still with the ledger when the time ran out is named nowhere.
-/

set_option autoImplicit false

namespace Remittance

namespace Pipeline

variable {p : Pipeline} {request : PaymentRequest} {k : Keypair} {q q' : Progress}
  {h : CallTranscript}

/-- Stages in which an envelope was signed go on to hand it to the ledger, and end as the ledger
answers. -/
theorem Course.of_signed {e : Except Stop (Json × String)} {envelope : Envelope} {signed : Signed}
    (hcourse : Course p request q h e q')
    (hsigned : (⟨.sign k envelope, .value signed⟩ : (c : Call) × c.Answer) ∈ h) :
    ∃ reply q₁ h₁, Making p request k q h₁ (.ok envelope) q₁ ∧
      h = h₁ ++ [⟨.sign k envelope, .value signed⟩, ⟨.submit signed.envelope, reply⟩] ∧
      e = ((reply.verdict (.submission signed.hash)).map fun result => (result, signed.hash)) ∧
      q' = ((q₁.entered .signed).entered .submitted).after e := by
  obtain ⟨reply, hsubmit⟩ := hcourse.submit_of_signed hsigned
  obtain ⟨k', envelope', signed', q₁, h₁, -, hmaking, -, rfl, hend, hq⟩ := hcourse.of_submit hsubmit
  rcases List.mem_append.mp hsigned with hin | hin
  · cases hmaking.isMaking_of_mem hin
  rcases List.mem_cons.mp hin with hin | hin
  · cases hin
    exact ⟨reply, q₁, h₁, hmaking, rfl, hend, hq⟩
  · rw [List.mem_singleton] at hin
    cases hin

/-- A way to an envelope records at most that an account is going to be created. -/
theorem Making.records_of_ok {envelope : Envelope}
    (hmaking : Making p request k q h (.ok envelope) q') :
    q'.records = q.records ∨ ∃ accountId, q'.records = q.records ++ [creationRecord accountId] := by
  cases hmaking with
  | relay reply e hpath hend => exact .inl rfl
  | direct h e q' hpath hassembly =>
    cases hassembly with
    | build d look t m snapshot e hchosen hmemo hend =>
      cases t with
      | payment accountId amount asset => exact .inl rfl
      | createAccount accountId amount => exact .inr ⟨accountId, rfl⟩

/-- Where the hash of a signed transaction is after a run that came back with an outcome. -/
inductive HashLeft (h : CallTranscript) (signed : Signed) (o : Outcome) (records : List Record) :
    Prop where
  /-- The ledger took the transaction, and the outcome names it. -/
  | done (result : Json)
      (hsubmit : (⟨.submit signed.envelope, .value result⟩ : (c : Call) × c.Answer) ∈ h)
      (hending : o.ending = .done result signed.hash)
  /-- The ledger failed, and only the record of the failure names the transaction. -/
  | refused (f : Failure)
      (hsubmit : (⟨.submit signed.envelope, .failed f⟩ : (c : Call) × c.Answer) ∈ h)
      (hending : o.ending = .failed (Cause.submission signed.hash f).error)
      (hrecord : (Cause.submission signed.hash f).record ∈ records)
  /-- The time ran out at the ledger, and nothing names the transaction. -/
  | late
      (hsubmit : (⟨.submit signed.envelope, .interrupted .deadline⟩ : (c : Call) × c.Answer) ∈ h)
      (hending : o.ending = .failed ⟨.canceled, none⟩)
      (hrecords : ∀ record ∈ records, ∀ value, (Label.txHash, value) ∉ record.values)

/-- The journal of a run whose time ran out at the ledger names no hash. -/
theorem Making.hashless_of_late {envelope : Envelope} {trail : List PaymentState}
    (hmaking : Making p request k ⟨trail, []⟩ h (.ok envelope) q') {state : PaymentState} :
    ∀ record ∈ q'.records ++ [failedRecord .canceled state], ∀ value,
      (Label.txHash, value) ∉ record.values := by
  intro record hmem value
  rcases hmaking.records_of_ok with hrecords | ⟨accountId, hrecords⟩ <;>
    rw [hrecords] at hmem <;> simp at hmem
  · rw [hmem]
    simp [failedRecord]
  · rcases hmem with rfl | rfl <;> simp [creationRecord, failedRecord]

/-- A course in which an envelope was signed leaves its hash in one of three ways. -/
theorem Course.hashLeft {trail : List PaymentState} {e : Except Stop (Json × String)}
    {envelope : Envelope} {signed : Signed} {o : Outcome}
    (hcourse : Course p request ⟨trail, []⟩ h e q')
    (hended : (conclude (e, q')).1 = .outcome o)
    (hsigned : (⟨.sign k envelope, .value signed⟩ : (c : Call) × c.Answer) ∈ h) :
    HashLeft h signed o (conclude (e, q')).2.records := by
  obtain ⟨reply, q₁, h₁, hmaking, rfl, rfl, rfl⟩ := hcourse.of_signed hsigned
  cases reply with
  | value result =>
    cases hended
    exact .done result (by simp) rfl
  | failed f =>
    cases hended
    refine .refused f (by simp) rfl ?_
    simp [Reply.verdict, Except.map, conclude, failed, Progress.stopped, Progress.noted]
  | interrupted i =>
    cases i with
    | canceled => cases hended
    | deadline =>
      cases hended
      exact .late (by simp) rfl hmaking.hashless_of_late

/-- A hash that an outcome names is that of a signed transaction. -/
theorem Course.signed_of_txHash {e : Except Stop (Json × String)} {o : Outcome} {txHash : String}
    (hcourse : Course p request q h e q') (hended : (conclude (e, q')).1 = .outcome o)
    (hhash : o.txHash = some txHash) :
    ∃ k envelope signed, (⟨.sign k envelope, .value signed⟩ : (c : Call) × c.Answer) ∈ h ∧
      txHash = signed.hash := by
  cases e with
  | ok delivered =>
    obtain ⟨-, k, envelope, signed, hsigned, hequal⟩ := hcourse.delivered
    cases hended
    cases hhash
    exact ⟨k, envelope, signed, hsigned, hequal⟩
  | error stop =>
    cases stop with
    | cause c =>
      cases hended
      cases hhash
    | escaped t => cases hended
    | interrupted i =>
      cases i <;> cases hended
      cases hhash

/-- An outcome names the hash exactly if the payment went through. -/
theorem HashLeft.txHash_iff {signed : Signed} {o : Outcome} {records : List Record}
    (hleft : HashLeft h signed o records) :
    (o.txHash = some signed.hash ↔ o.state = .done) ∧ (o.txHash = none ↔ o.state = .failed) := by
  obtain ⟨trail, ending⟩ := o
  cases hleft with
  | done result hsubmit hending => cases hending; simp [Outcome.txHash, Outcome.state]
  | refused f hsubmit hending hrecord => cases hending; simp [Outcome.txHash, Outcome.state]
  | late hsubmit hending hrecords => cases hending; simp [Outcome.txHash, Outcome.state]

/-- An outcome names the hash of the transaction that was signed if and only if it is done, and
names no hash if it failed, however far the signed transaction got. -/
theorem hash_left (p : Pipeline) (request : PaymentRequest) {σ : Type}
    (answer : σ → (c : Call) → c.Answer × σ) (s : σ) {o : Outcome}
    (hended : ((p.submit request).run answer s).1.1 = .outcome o) :
    (∀ txHash, o.txHash = some txHash → ∃ k envelope signed,
      ⟨.sign k envelope, .value signed⟩ ∈ (p.submit request).transcript answer s ∧
        txHash = signed.hash) ∧
    ∀ k envelope signed,
      ⟨.sign k envelope, .value signed⟩ ∈ (p.submit request).transcript answer s →
        (o.txHash = some signed.hash ↔ o.state = .done) ∧ (o.txHash = none ↔ o.state = .failed) ∧
          HashLeft ((p.submit request).transcript answer s) signed o
            ((p.submit request).run answer s).1.2.records := by
  obtain ⟨e, q', hcourse, heq⟩ := course_of_goes (Dialogue.goes_run answer s (p.submit request))
  rw [heq] at hended ⊢
  refine ⟨fun txHash hhash => hcourse.signed_of_txHash hended hhash, ?_⟩
  intro k envelope signed hsigned
  have hleft := hcourse.hashLeft hended hsigned
  exact ⟨hleft.txHash_iff.1, hleft.txHash_iff.2, hleft⟩

/-- Collaborators that sign and answer all but the ledger, which always replies the same. -/
def ledgerAnswers (reply : Reply Json) (turn : Nat) : (c : Call) → c.Answer × Nat
  | .submit _ => (reply, turn + 1)
  | c => signingAnswers.answer turn c

/-- The payment of one unit is signed and gets to the ledger, whatever the ledger replies. -/
theorem zeroRequest_reaches_ledger (reply : Reply Json) : ∃ k envelope signed q,
    ⟨.sign k envelope, .value signed⟩ ∈
      ((timedPipeline 30).submit zeroRequest).transcript (ledgerAnswers reply) 0 ∧
    (((timedPipeline 30).submit zeroRequest).run (ledgerAnswers reply) 0).1 =
      conclude ((reply.verdict (.submission signed.hash)).map fun result => (result, signed.hash),
        q) := by
  obtain ⟨-, text, reply', hmem⟩ := timedPipeline_submits (by decide : (0 : Int) < 30)
  have hagree : ∀ turn c, (¬ ∃ text, c = .submit text) →
      signingAnswers.answer turn c = ledgerAnswers reply turn c := by
    intro turn c hother
    cases c with
    | submit text => exact absurd ⟨text, rfl⟩ hother
    | _ => rfl
  obtain ⟨turn, c, before, after, ⟨text, rfl⟩, hsplit⟩ :=
    Dialogue.exists_first_of_mem_transcript hagree hmem ⟨text, rfl⟩
  obtain ⟨e, q', hcourse, heq⟩ := course_of_goes
    (Dialogue.goes_run (ledgerAnswers reply) 0 ((timedPipeline 30).submit zeroRequest))
  rw [hsplit] at hcourse ⊢
  have hsubmit : (⟨.submit text, reply⟩ : (c : Call) × c.Answer) ∈
      before ++ ⟨.submit text, (ledgerAnswers reply turn (.submit text)).1⟩ :: after :=
    List.mem_append_right before List.mem_cons_self
  obtain ⟨k, envelope, signed, -, h₁, -, -, -, hh, hend, -⟩ := hcourse.of_submit hsubmit
  refine ⟨k, envelope, signed, q', ?_, ?_⟩
  · rw [hh]
    simp
  · rw [heq, hend]

/-- The payment of one unit whose time runs out at the ledger is signed, and its hash is lost. -/
theorem late_hash_lost : ∃ k envelope signed o,
    (((timedPipeline 30).submit zeroRequest).run (ledgerAnswers (.interrupted .deadline)) 0).1.1 =
      .outcome o ∧
    ⟨.sign k envelope, .value signed⟩ ∈ ((timedPipeline 30).submit zeroRequest).transcript
      (ledgerAnswers (.interrupted .deadline)) 0 ∧
    o.txHash = none ∧ ∀ record ∈ (((timedPipeline 30).submit zeroRequest).run
      (ledgerAnswers (.interrupted .deadline)) 0).1.2.records, ∀ value,
        (Label.txHash, value) ∉ record.values := by
  obtain ⟨k, envelope, signed, q, hsigned, hrun⟩ :=
    zeroRequest_reaches_ledger (.interrupted .deadline)
  have hended := congrArg Prod.fst hrun
  obtain ⟨-, hleft⟩ := hash_left (timedPipeline 30) zeroRequest
    (ledgerAnswers (.interrupted .deadline)) 0 hended
  obtain ⟨-, hnone, hfate⟩ := hleft k envelope signed hsigned
  refine ⟨k, envelope, signed, _, hended, hsigned, hnone.mpr rfl, ?_⟩
  cases hfate with
  | done result hsubmit hending => cases hending
  | refused f hsubmit hending hrecord => cases hending
  | late hsubmit hending hrecords => exact hrecords

/-- Not every outcome names the transaction that was signed: one that the ledger refused does
not. -/
theorem not_always_hash :
    ¬ ∀ (p : Pipeline) (request : PaymentRequest) (σ : Type)
        (answer : σ → (c : Call) → c.Answer × σ) (s : σ) (o : Outcome) (k : Keypair)
        (envelope : Envelope) (signed : Signed),
      ((p.submit request).run answer s).1.1 = .outcome o →
      ⟨.sign k envelope, .value signed⟩ ∈ (p.submit request).transcript answer s →
      o.txHash = some signed.hash := by
  intro halways
  obtain ⟨k, envelope, signed, q, hsigned, hrun⟩ :=
    zeroRequest_reaches_ledger (.failed .transaction)
  have hhash :=
    halways (timedPipeline 30) zeroRequest Nat (ledgerAnswers (.failed .transaction)) 0 _
    k envelope signed (congrArg Prod.fst hrun) hsigned
  cases hhash

end Pipeline

end Remittance
