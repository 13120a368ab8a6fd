import Remittance.Proofs.Payment.Trail

/-!
# Interruptions

A call that is interrupted, by the deadline or by the caller who gives up, is the last one of its
run. The main statement says what becomes of the run: nothing more is asked, signed or submitted,
the states that were entered are followed by the failure, the journal is closed as canceled, and the
deadline gives an outcome where the caller gets none. No other run is reported as canceled, whatever
the failures of the collaborators are.
-/

set_option autoImplicit false

namespace Remittance

/-- A run is reported as canceled: to a caller who gave up, or as the error of its outcome. -/
inductive Ended.IsCanceled : Ended → Prop where
  | caller : IsCanceled .canceled
  | outcome (o : Outcome) (error : PaymentError) (herror : o.error = some error)
      (hcode : error.code = .canceled) : IsCanceled (.outcome o)

/-- No cause of a failure is reported as canceled. -/
theorem Cause.code_ne_canceled (c : Cause) : c.code ≠ .canceled := by
  cases c with
  | build f =>
    intro hcode
    have hmem := Pipeline.buildCode_mem f
    rw [show f.buildCode = .canceled from hcode] at hmem
    revert hmem
    decide
  | _ => exact nofun

namespace Run

variable {α β : Type}

/-- A part of a run ceases at an interruption: no call comes after it, and the part ends with it. -/
def Ceases (r : Run α) : Prop :=
  ∀ ⦃p : Progress⦄ ⦃h : CallTranscript⦄ ⦃e : Except Stop α⦄ ⦃p' : Progress⦄, r.Takes p h e p' →
    ∀ ⦃before : CallTranscript⦄ ⦃c : Call⦄ ⦃i : Interruption⦄ ⦃after : CallTranscript⦄,
      h = before ++ ⟨c, .interrupted i⟩ :: after → after = [] ∧ e = .error (.interrupted i)

/-- A part that makes no call is not interrupted. -/
theorem ceases_of_silent {r : Run α}
    (hsilent : ∀ p h e p', r.Takes p h e p' → h = []) : r.Ceases := by
  intro p h e p' htakes before c i after hsplit
  rw [hsilent p h e p' htakes] at hsplit
  simp at hsplit

/-- A value asks nothing. -/
theorem ceases_pure (a : α) : (pure a : Run α).Ceases :=
  ceases_of_silent fun _ _ _ _ htakes => (takes_pure_iff.mp htakes).1

/-- A stop asks nothing. -/
theorem ceases_throw (s : Stop) : (throw s : Run α).Ceases :=
  ceases_of_silent fun _ _ _ _ htakes => (takes_throw_iff.mp htakes).1

/-- A failure asks nothing. -/
theorem ceases_fail (cause : Cause) : (fail cause : Run α).Ceases :=
  ceases_of_silent fun _ _ _ _ htakes => (takes_fail_iff.mp htakes).1

/-- A check asks nothing. -/
theorem ceases_ofExcept (x : Except Cause α) : (ofExcept x).Ceases :=
  ceases_of_silent fun _ _ _ _ htakes => (takes_ofExcept_iff.mp htakes).1

/-- A call that is interrupted is the last one. -/
theorem ceases_call (c : Call) : (call c).Ceases := by
  intro p h e p' htakes before c' i after hsplit
  obtain ⟨reply, rfl, rfl, -⟩ := takes_call_iff.mp htakes
  cases before with
  | nil =>
    obtain ⟨heq, hafter⟩ := List.cons.inj hsplit
    cases heq
    exact ⟨hafter.symm, rfl⟩
  | cons x rest => simp at hsplit

/-- An interruption of the first part is the end of both; one of the second part is later than all
of the first. -/
theorem ceases_bind {r : Run α} {f : α → Run β} (hr : r.Ceases) (hf : ∀ a, (f a).Ceases) :
    (r >>= f).Ceases := by
  intro p h e p' htakes before c i after hsplit
  obtain ⟨s, rfl, hfirst⟩ | ⟨h₁, h₂, a, q, rfl, hfirst, hsecond⟩ := takes_bind_iff.mp htakes
  · obtain ⟨hlast, hend⟩ := hr hfirst hsplit
    cases hend
    exact ⟨hlast, rfl⟩
  · rcases List.append_eq_append_iff.mp hsplit with ⟨rest, -, hsplit₂⟩ | ⟨rest, hsplit₁, hrest⟩
    · exact hf a hsecond hsplit₂
    · cases rest with
      | nil => exact hf a hsecond (hrest.symm.trans (List.nil_append _).symm)
      | cons x rest =>
        obtain ⟨rfl, -⟩ := List.cons.inj hrest
        obtain ⟨-, hend⟩ := hr hfirst hsplit₁
        cases hend

/-- A part that enters a state first ceases if the rest does. -/
theorem ceases_enter_bind {s : PaymentState} {r : Unit → Run α} (hr : (r ()).Ceases) :
    (enter s >>= r).Ceases := by
  intro p h e p' htakes
  exact hr (takes_enter_bind_iff.mp htakes)

/-- A part that writes a record first ceases if the rest does. -/
theorem ceases_log_bind {record : Record} {r : Unit → Run α} (hr : (r ()).Ceases) :
    (log record >>= r).Ceases := by
  intro p h e p' htakes
  exact hr (takes_log_bind_iff.mp htakes)

/-- A call of which every failure is a cause ceases. -/
theorem ceases_require (c : Call) (cause : Failure → Cause) : (require c cause).Ceases := by
  refine ceases_bind (ceases_call c) fun x => ?_
  cases x with
  | ok a => exact ceases_pure a
  | error f => exact ceases_fail (cause f)

end Run

namespace Pipeline

variable {p : Pipeline} {request : PaymentRequest} {q q' : Progress} {h : CallTranscript}

/-- The resolution of an identifier ceases. -/
theorem ceases_resolve (identifier : Text) : (resolve identifier).Ceases := by
  refine Run.ceases_bind (Run.ceases_require _ _) fun d => ?_
  split
  · exact Run.ceases_pure d
  · exact Run.ceases_fail _

/-- The choice of an operation ceases. -/
theorem ceases_transfer (asset : Asset) (accountId amount : Text) :
    (transfer asset accountId amount).Ceases := by
  cases asset with
  | credit code issuer => exact Run.ceases_pure _
  | native =>
    refine Run.ceases_bind (Run.ceases_call _) fun x => ?_
    cases x with
    | ok snapshot => exact Run.ceases_pure _
    | error f =>
      simp only
      split
      · exact Run.ceases_log_bind (Run.ceases_pure _)
      · exact Run.ceases_fail _

/-- The memo ceases. -/
theorem ceases_memo (request : PaymentRequest) (d : Destination) : (memo request d).Ceases := by
  unfold memo
  split
  · exact Run.ceases_pure _
  · exact Run.ceases_fail _
  · exact Run.ceases_throw _

/-- An assembly ceases. -/
theorem ceases_assemble (p : Pipeline) (request : PaymentRequest) (k : Keypair) :
    (p.assemble request k).Ceases := by
  refine Run.ceases_bind (ceases_resolve _) fun d => Run.ceases_bind (Run.ceases_ofExcept _)
    fun asset => Run.ceases_bind (ceases_transfer _ _ _) fun t =>
      Run.ceases_bind (ceases_memo _ _) fun m =>
        Run.ceases_bind (Run.ceases_require _ _) fun snapshot => ?_
  cases p.envelope k.accountId snapshot t m with
  | ok envelope => exact Run.ceases_pure envelope
  | error f => exact Run.ceases_fail _

/-- The way to an envelope ceases. -/
theorem ceases_make (p : Pipeline) (request : PaymentRequest) (k : Keypair) :
    (p.make request k).Ceases := by
  unfold make
  split
  · refine Run.ceases_enter_bind (Run.ceases_bind (Run.ceases_require _ _) fun text => ?_)
    split
    · exact Run.ceases_pure _
    · exact Run.ceases_fail _
  · exact Run.ceases_enter_bind (ceases_assemble p request k)

/-- The way to a signature ceases. -/
theorem ceases_sign (p : Pipeline) (request : PaymentRequest) : (p.sign request).Ceases := by
  have hsource : (source request).Ceases := by
    unfold source
    split
    · exact Run.ceases_pure _
    · exact Run.ceases_fail _
  refine Run.ceases_bind hsource fun k =>
    Run.ceases_bind (ceases_make p request k) fun envelope => ?_
  exact Run.ceases_enter_bind (Run.ceases_require _ _)

/-- The stages of a run cease at an interruption. -/
theorem ceases_stages (p : Pipeline) (request : PaymentRequest) : (p.stages request).Ceases := by
  refine Run.ceases_bind (ceases_sign p request) fun signed => Run.ceases_enter_bind ?_
  exact Run.ceases_bind (Run.ceases_require _ _) fun result => Run.ceases_pure _

/-- The states that a run has entered when it makes a call. -/
def statesAt (p : Pipeline) (request : PaymentRequest) : Call → List PaymentState
  | .sign .. => [.start, p.route request, .signed]
  | .submit _ => [.start, p.route request, .signed, .submitted]
  | _ => [.start, p.route request]

/-- At a call that makes an envelope a run is on its way. -/
theorem statesAt_of_isMaking {c : Call} (hmaking : c.isMaking = true) :
    p.statesAt request c = [.start, p.route request] := by
  cases c with
  | sign k envelope => cases hmaking
  | submit text => cases hmaking
  | _ => rfl

/-- What a run comes to that is interrupted at a call. -/
structure CutShort (p : Pipeline) (request : PaymentRequest) (before : CallTranscript) (c : Call)
    (i : Interruption) (after : CallTranscript) (r : Ended × Progress) : Prop where
  last : after = []
  /-- No envelope is with the ledger, unless the call was the one that handed it over. -/
  unsubmitted : ∀ text, Call.submit text ∉ Transcript.questions before
  trail : r.2.trail = p.statesAt request c ++ [.failed]
  ended : r.1 = match i with
    | .deadline => .outcome ⟨r.2.trail, .failed ⟨.canceled, none⟩⟩
    | .canceled => .canceled
  /-- One record closes the journal; it says that the run was canceled, and in which state. -/
  journal : ∃ earlier state, r.2.records = earlier ++ [failedRecord .canceled state] ∧
    (p.statesAt request c).getLast? = some state ∧
    ∀ record ∈ earlier, record.isClosing = false

/-- Stages that end with an interruption have entered what the interrupted call tells. -/
theorem Course.trail_of_interrupted {records : List Record} {before : CallTranscript} {c : Call}
    {i : Interruption} (hopen : Progress.Open ⟨[.start], records⟩)
    (hcourse : Course p request ⟨[.start], records⟩ (before ++ [⟨c, .interrupted i⟩])
      (.error (.interrupted i)) q') : q'.trail = p.statesAt request c := by
  generalize hsplit : before ++ [⟨c, .interrupted i⟩] = h at hcourse
  cases hcourse with
  | making k h s q' hk hmaking =>
    have hmem : (⟨c, .interrupted i⟩ : (c : Call) × c.Answer) ∈ h := by
      rw [← hsplit]
      simp
    rw [statesAt_of_isMaking (hmaking.isMaking_of_mem hmem), (hmaking.entered hopen).1]
    rfl
  | signing k h envelope q₁ reply s hk hmaking hstop =>
    obtain ⟨-, hlast⟩ := List.append_inj' hsplit rfl
    cases hlast
    rw [Progress.trail_stopped, Progress.trail_entered, (hmaking.entered hopen).1]
    rfl
  | submission k h envelope q₁ signed reply e hk hmaking hend =>
    rw [List.append_cons h] at hsplit
    obtain ⟨-, hlast⟩ := List.append_inj' hsplit rfl
    cases hlast
    rw [Progress.trail_after, Progress.trail_entered, Progress.trail_entered,
      (hmaking.entered hopen).1]
    rfl

/-- A call that is followed by another has handed nothing to the ledger. -/
theorem Protocol.submit_not_mem {trail : List PaymentState} {before : CallTranscript}
    {x : (c : Call) × c.Answer} (hprotocol : Protocol request (before ++ [x]) trail)
    (text : String) : Call.submit text ∉ Transcript.questions before := by
  intro hmem
  obtain ⟨⟨c, reply⟩, hin, rfl⟩ := List.mem_map.mp hmem
  obtain ⟨earlier, later, rfl⟩ := List.append_of_mem hin
  obtain ⟨hlast, -⟩ := hprotocol.submission earlier text reply (later ++ [x]) (by simp)
  simp at hlast

/-- A run that is interrupted at a call is cut short there. -/
theorem cutShort_of_takes {e : Except Stop (Json × String)}
    (htakes : (p.stages request).Takes ⟨[.start], []⟩ h e q') {before : CallTranscript} {c : Call}
    {i : Interruption} {after : CallTranscript}
    (hsplit : h = before ++ ⟨c, .interrupted i⟩ :: after) :
    CutShort p request before c i after (conclude (e, q')) := by
  obtain ⟨rfl, rfl⟩ := ceases_stages p request htakes hsplit
  subst hsplit
  have hcourse := course_of_takes htakes
  have htrail := hcourse.trail_of_interrupted Progress.open_start
  obtain ⟨hentered, hopen, -⟩ := hcourse.entered Progress.open_start
  obtain ⟨states, state, hstates⟩ := hentered.exists_last
  have hend : (conclude (.error (.interrupted i), q')).2 = failed q' .canceled := by
    cases i <;> rfl
  have hlast : q'.trail.getLast? = some state := by
    rw [hstates, List.getLast?_concat]
  exact {
    last := rfl
    unsubmitted := hcourse.protocol.submit_not_mem
    trail := by rw [hend, failed, htrail]
    ended := by cases i <;> rfl
    journal := ⟨q'.records, state, by rw [hend, failed, hlast]; rfl, htrail ▸ hlast, hopen⟩ }

/-- Only stages that were interrupted end a run that is reported as canceled. -/
theorem interrupted_of_isCanceled {e : Except Stop (Json × String)}
    (hcanceled : (conclude (e, q)).1.IsCanceled) : ∃ i, e = .error (.interrupted i) := by
  cases e with
  | ok value =>
    cases hcanceled with
    | outcome o error herror hcode => cases herror
  | error s =>
    cases s with
    | cause c =>
      cases hcanceled with
      | outcome o error herror hcode =>
        cases herror
        exact absurd hcode c.code_ne_canceled
    | interrupted i => exact ⟨i, rfl⟩
    | escaped t => cases hcanceled

/-- A run that was cut short is canceled. -/
theorem CutShort.isCanceled {before after : CallTranscript} {c : Call} {i : Interruption}
    {r : Ended × Progress} (hcut : CutShort p request before c i after r) : r.1.IsCanceled := by
  have hended := hcut.ended
  cases i with
  | deadline =>
    rw [hended]
    exact .outcome _ _ rfl rfl
  | canceled =>
    rw [hended]
    exact .caller

/-- An interruption cuts a run short at the call at which it comes, and nothing else has a run
reported as canceled. -/
theorem interruption_ends_run (p : Pipeline) (request : PaymentRequest) {σ : Type}
    (answer : σ → (c : Call) → c.Answer × σ) (s : σ) :
    (∀ before c i after,
      (p.submit request).transcript answer s = before ++ ⟨c, .interrupted i⟩ :: after →
        CutShort p request before c i after ((p.submit request).run answer s).1) ∧
    (((p.submit request).run answer s).1.1.IsCanceled ↔
      ∃ c i, ⟨c, .interrupted i⟩ ∈ (p.submit request).transcript answer s) := by
  obtain ⟨e, q', htakes, heq⟩ := takes_of_goes (Dialogue.goes_run answer s (p.submit request))
  rw [heq]
  refine ⟨fun before c i after hsplit => cutShort_of_takes htakes hsplit, ?_, ?_⟩
  · intro hcanceled
    obtain ⟨i, rfl⟩ := interrupted_of_isCanceled hcanceled
    obtain ⟨c, hmem⟩ := (course_of_takes htakes).interrupted_mem
    exact ⟨c, i, hmem⟩
  · rintro ⟨c, i, hmem⟩
    obtain ⟨before, after, hsplit⟩ := List.append_of_mem hmem
    exact (cutShort_of_takes htakes hsplit).isCanceled

/-- Collaborators that sign and answer all but the ledger, at which the time runs out. -/
def lateAnswers (turn : Nat) : (c : Call) → c.Answer × Nat
  | .submit _ => (.interrupted .deadline, turn + 1)
  | c => signingAnswers.answer turn c

/-- A payment whose time runs out at the ledger is cut short there. -/
theorem late_payment_cut_short : ∃ before text,
    ((timedPipeline 30).submit zeroRequest).transcript lateAnswers 0 =
      before ++ [⟨.submit text, .interrupted .deadline⟩] ∧
    CutShort (timedPipeline 30) zeroRequest before (.submit text) .deadline []
      (((timedPipeline 30).submit zeroRequest).run lateAnswers 0).1 := by
  obtain ⟨-, text, reply, hmem⟩ := timedPipeline_submits (by decide : (0 : Int) < 30)
  have hagree : ∀ turn c, (¬ ∃ text, c = .submit text) →
      signingAnswers.answer turn c = lateAnswers turn c := by
    intro turn c hother
    cases c with
    | submit text => exact absurd ⟨text, rfl⟩ hother
    | _ => rfl
  obtain ⟨turn, c, before, after, ⟨text, rfl⟩, hsplit⟩ :=
    Dialogue.exists_first_of_mem_transcript hagree hmem ⟨text, rfl⟩
  have hcut := (interruption_ends_run (timedPipeline 30) zeroRequest lateAnswers 0).1 _ _ _ _ hsplit
  obtain rfl := hcut.last
  exact ⟨before, text, hsplit, hcut⟩

end Pipeline

end Remittance
