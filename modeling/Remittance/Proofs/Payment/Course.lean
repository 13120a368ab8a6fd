import Remittance.Proofs.Payment.Stages

/-!
# Courses of a run

All the ways that a run can take, by the stage that ends it. A course holds the transcript of the
calls, what the checks on the way have settled, how the stages ended and the progress that was made.
The main statement is that every run takes one of these courses; what a run can do is read off them,
one case for each way to end.
-/

set_option autoImplicit false

namespace Remittance

namespace Pipeline

variable {q q' : Progress} {h : CallTranscript}

/-- What is settled once the operation of a request has been chosen: the resolver named a valid
account, the asset is sound, and these calls decided between payment and creation. -/
structure Chosen (request : PaymentRequest) (d : Destination) (look : CallTranscript)
    (t : Transfer) : Prop where
  accountId : isAccountId d.accountId = true
  choice : ∃ asset, Asset.ofFields request.assetCode request.assetIssuer = .ok asset ∧
    Choice d.accountId request.amount asset look t

/-- The calls that choose an operation: one look at the account for the native asset, and none for
a credit asset. -/
theorem Chosen.questions_eq {request : PaymentRequest} {d : Destination} {look : CallTranscript}
    {t : Transfer} (hchosen : Chosen request d look t) :
    Transcript.questions look = if request.isNative then [.account d.accountId] else [] := by
  obtain ⟨asset, hasset, hchoice⟩ := hchosen.choice
  have hnative := ofFields_isNative hasset
  cases hchoice with
  | credit code issuer =>
    rw [if_neg (by simp [hnative])]
    rfl
  | present snapshot =>
    rw [if_pos (hnative.mpr rfl)]
    rfl
  | missing f hmissing =>
    rw [if_pos (hnative.mpr rfl)]
    rfl

/-- How the assembly of a transaction goes, by the stage that ends it. -/
inductive Assembly (p : Pipeline) (request : PaymentRequest) (k : Keypair) (q : Progress) :
    CallTranscript → Except Stop Envelope → Progress → Prop where
  | resolve (reply : Reply Destination) (s : Stop)
      (hstop : reply.judged (.unresolvable request.destination)
        (checkDestination request.destination) = .error s) :
    Assembly p request k q [⟨.resolve request.destination, reply⟩] (.error s)
      (q.stopped s)
  | asset (d : Destination) (c : Cause) (hd : isAccountId d.accountId = true)
      (hstop : Asset.ofFields request.assetCode request.assetIssuer = .error c) :
    Assembly p request k q [⟨.resolve request.destination, .value d⟩] (.error (.cause c))
      (q.noted c.record)
  | lookup (d : Destination) (reply : Reply Snapshot) (s : Stop)
      (hd : isAccountId d.accountId = true)
      (hasset : Asset.ofFields request.assetCode request.assetIssuer = .ok .native)
      (hstop : lookup d.accountId request.amount reply = .error s) :
    Assembly p request k q
      [⟨.resolve request.destination, .value d⟩, ⟨.account d.accountId, reply⟩] (.error s)
      (q.stopped s)
  | memo (d : Destination) (look : CallTranscript) (t : Transfer) (s : Stop)
      (hchosen : Chosen request d look t) (hstop : memoVerdict request d = .error s) :
    Assembly p request k q (⟨.resolve request.destination, .value d⟩ :: look) (.error s)
      ((q.chosen t).stopped s)
  | load (d : Destination) (look : CallTranscript) (t : Transfer) (m : Memo)
      (reply : Reply Snapshot) (s : Stop) (hchosen : Chosen request d look t)
      (hmemo : memoVerdict request d = .ok m)
      (hstop : reply.verdict (loadCause k.accountId) = .error s) :
    Assembly p request k q
      (⟨.resolve request.destination, .value d⟩ :: (look ++ [⟨.account k.accountId, reply⟩]))
      (.error s) ((q.chosen t).stopped s)
  | build (d : Destination) (look : CallTranscript) (t : Transfer) (m : Memo)
      (snapshot : Snapshot) (e : Except Stop Envelope) (hchosen : Chosen request d look t)
      (hmemo : memoVerdict request d = .ok m)
      (hend : e = (p.envelope k.accountId snapshot t m).mapError fun f => .cause (.build f)) :
    Assembly p request k q
      (⟨.resolve request.destination, .value d⟩ ::
        (look ++ [⟨.account k.accountId, .value snapshot⟩]))
      e ((q.chosen t).after e)

/-- A destination that is let through was named by the resolver and has a valid account id. -/
theorem judged_destination_eq_ok {identifier : Text} {reply : Reply Destination}
    {d : Destination}
    (hok : reply.judged (.unresolvable identifier) (checkDestination identifier) = .ok d) :
    reply = .value d ∧ isAccountId d.accountId = true := by
  cases reply with
  | value d' =>
    simp only [Reply.judged, checkDestination] at hok
    split at hok
    · rename_i hid
      cases hok
      exact ⟨rfl, hid⟩
    · cases hok
  | failed f => cases hok
  | interrupted i => cases hok

/-- A destination with a valid account id is let through. -/
theorem judged_destination_of_isAccountId {identifier : Text} {d : Destination}
    (hid : isAccountId d.accountId = true) :
    Reply.judged (.unresolvable identifier) (checkDestination identifier) (.value d) = .ok d := by
  rw [Reply.judged, checkDestination, if_pos hid]
  rfl

/-- Every way that the assembly of a transaction can take. -/
theorem assembly_of_takes {p : Pipeline} {request : PaymentRequest} {k : Keypair}
    {e : Except Stop Envelope} (htakes : (p.assemble request k).Takes q h e q') :
    Assembly p request k q h e q' := by
  rw [assemble] at htakes
  -- Every stage either stops the run, which is a case of its own, or hands its value to the next.
  obtain ⟨s, rfl, hstage⟩ | ⟨h₁, hr, d, q₁, rfl, hstage, hrest⟩ := Run.takes_bind_iff.mp htakes
  · obtain ⟨reply, rfl, heq, rfl⟩ := takes_resolve_iff.mp hstage
    exact .resolve reply s heq.symm
  obtain ⟨reply, rfl, heq, hq⟩ := takes_resolve_iff.mp hstage
  obtain ⟨rfl, hd⟩ := judged_destination_eq_ok heq.symm
  rw [hq, Progress.after_ok] at hrest
  clear htakes heq hstage hq
  obtain ⟨s, rfl, hstage⟩ | ⟨h₂, hr, asset, q₂, rfl, hstage, htakes⟩ := Run.takes_bind_iff.mp hrest
  · obtain ⟨rfl, heq, rfl⟩ := Run.takes_ofExcept_iff.mp hstage
    obtain ⟨c, hasset, rfl⟩ := mapError_eq_error_iff.mp heq.symm
    exact .asset d c hd hasset
  obtain ⟨rfl, heq, hq⟩ := Run.takes_ofExcept_iff.mp hstage
  have hasset := mapError_eq_ok_iff.mp heq.symm
  rw [hq, Progress.after_ok] at htakes
  clear hrest heq hstage hq
  obtain ⟨s, rfl, hstage⟩ | ⟨look, hr, t, q₃, rfl, hstage, hrest⟩ := Run.takes_bind_iff.mp htakes
  · obtain ⟨rfl, reply, rfl, hstop, rfl⟩ := lookup_of_takes hstage
    exact .lookup d reply s hd hasset hstop
  obtain ⟨hchoice, rfl⟩ := choice_of_takes hstage
  have hchosen : Chosen request d look t := ⟨hd, asset, hasset, hchoice⟩
  clear htakes hstage
  obtain ⟨s, rfl, hstage⟩ | ⟨h₄, hr, m, q₄, rfl, hstage, htakes⟩ := Run.takes_bind_iff.mp hrest
  · obtain ⟨rfl, heq, rfl⟩ := takes_memo_iff.mp hstage
    simpa using Assembly.memo d look t s hchosen heq.symm
  obtain ⟨rfl, hmemo, hq⟩ := takes_memo_iff.mp hstage
  rw [hq, Progress.after_ok] at htakes
  clear hrest hstage hq
  obtain ⟨s, rfl, hstage⟩ | ⟨h₅, hr, snapshot, q₅, rfl, hstage, hrest⟩ :=
    Run.takes_bind_iff.mp htakes
  · obtain ⟨reply, rfl, heq, rfl⟩ := takes_sourceSnapshot_iff.mp hstage
    simpa using Assembly.load d look t m reply s hchosen hmemo.symm heq.symm
  obtain ⟨reply, rfl, heq, hq⟩ := takes_sourceSnapshot_iff.mp hstage
  obtain rfl := Reply.verdict_eq_ok_iff.mp heq.symm
  rw [hq, Progress.after_ok] at hrest
  have hbuild : hr = [] ∧
      e = ((p.envelope k.accountId snapshot t m).mapError fun f => .cause (.build f)) ∧
      q' = (q.chosen t).after e := by
    cases hresult : p.envelope k.accountId snapshot t m with
    | ok envelope =>
      rw [hresult] at hrest
      obtain ⟨rfl, rfl, rfl⟩ := Run.takes_pure_iff.mp hrest
      exact ⟨rfl, rfl, rfl⟩
    | error f =>
      rw [hresult] at hrest
      obtain ⟨rfl, rfl, rfl⟩ := Run.takes_fail_iff.mp hrest
      exact ⟨rfl, rfl, rfl⟩
  obtain ⟨rfl, hend, rfl⟩ := hbuild
  simpa using Assembly.build d look t m snapshot e hchosen hmemo.symm hend

/-- How a request comes to an envelope, or why it does not: through the compliance relay, or by
assembly here. -/
inductive Making (p : Pipeline) (request : PaymentRequest) (k : Keypair) (q : Progress) :
    CallTranscript → Except Stop Envelope → Progress → Prop where
  | relay (reply : Reply Text) (e : Except Stop Envelope) (hpath : p.takesRelay request = true)
      (hend : e = reply.judged .relay p.checkRelayed) :
    Making p request k q [⟨.relay (relayRequest request k), reply⟩] e
      ((q.entered .complianceRelay).after e)
  | direct (h : CallTranscript) (e : Except Stop Envelope) (q' : Progress)
      (hpath : p.takesRelay request = false)
      (hassembly : Assembly p request k (q.entered .directAssembly) h e q') :
    Making p request k q h e q'

/-- How the stages of a run go, by the one that ends it. -/
inductive Course (p : Pipeline) (request : PaymentRequest) (q : Progress) :
    CallTranscript → Except Stop (Json × String) → Progress → Prop where
  | source (hk : Keypair.ofSecret? request.source = none) :
    Course p request q [] (.error (.cause .badSource)) (q.stopped (.cause .badSource))
  | making (k : Keypair) (h : CallTranscript) (s : Stop) (q' : Progress)
      (hk : Keypair.ofSecret? request.source = some k)
      (hmaking : Making p request k q h (.error s) q') :
    Course p request q h (.error s) q'
  | signing (k : Keypair) (h : CallTranscript) (envelope : Envelope) (q' : Progress)
      (reply : Reply Signed) (s : Stop) (hk : Keypair.ofSecret? request.source = some k)
      (hmaking : Making p request k q h (.ok envelope) q')
      (hstop : reply.verdict .signing = .error s) :
    Course p request q (h ++ [⟨.sign k envelope, reply⟩]) (.error s)
      ((q'.entered .signed).stopped s)
  | submission (k : Keypair) (h : CallTranscript) (envelope : Envelope) (q' : Progress)
      (signed : Signed) (reply : Reply Json) (e : Except Stop (Json × String))
      (hk : Keypair.ofSecret? request.source = some k)
      (hmaking : Making p request k q h (.ok envelope) q')
      (hend : e = (reply.verdict (.submission signed.hash)).map fun result =>
        (result, signed.hash)) :
    Course p request q
      (h ++ [⟨.sign k envelope, .value signed⟩, ⟨.submit signed.envelope, reply⟩]) e
      (((q'.entered .signed).entered .submitted).after e)

/-- Every way that a request can take to an envelope. -/
theorem making_of_takes {p : Pipeline} {request : PaymentRequest} {k : Keypair}
    {e : Except Stop Envelope}
    (htakes : (p.make request k).Takes q h e q') : Making p request k q h e q' := by
  rw [make] at htakes
  cases hpath : p.takesRelay request with
  | true =>
    rw [if_pos hpath, Run.takes_enter_bind_iff] at htakes
    obtain ⟨reply, rfl, hend, rfl⟩ := takes_relay_iff.mp htakes
    exact .relay reply e hpath hend
  | false =>
    rw [if_neg (by simp [hpath]), Run.takes_enter_bind_iff] at htakes
    exact .direct h e q' hpath (assembly_of_takes htakes)

/-- Every way that a run can take to a signature. -/
theorem takes_sign_cases {p : Pipeline} {request : PaymentRequest} {e : Except Stop Signed}
    (htakes : (p.sign request).Takes q h e q') :
    (Keypair.ofSecret? request.source = none ∧ h = [] ∧ e = .error (.cause .badSource) ∧
        q' = q.stopped (.cause .badSource)) ∨
      ∃ k, Keypair.ofSecret? request.source = some k ∧
        ((∃ s, e = .error s ∧ Making p request k q h (.error s) q') ∨
          ∃ h₁ envelope q₁ reply, h = h₁ ++ [⟨.sign k envelope, reply⟩] ∧
            Making p request k q h₁ (.ok envelope) q₁ ∧ e = reply.verdict .signing ∧
            q' = (q₁.entered .signed).after e) := by
  rw [sign] at htakes
  obtain ⟨s, rfl, hstage⟩ | ⟨h₁, hr, k, q₁, rfl, hstage, hrest⟩ := Run.takes_bind_iff.mp htakes
  · obtain ⟨rfl, rfl, heq⟩ := takes_source_iff.mp hstage
    cases hk : Keypair.ofSecret? request.source with
    | some k => rw [hk] at heq; cases heq
    | none =>
      rw [hk] at heq
      cases heq
      exact .inl ⟨rfl, rfl, rfl, rfl⟩
  obtain ⟨rfl, hq, heq⟩ := takes_source_iff.mp hstage
  rw [hq, Progress.after_ok] at hrest
  cases hk : Keypair.ofSecret? request.source with
  | none => rw [hk] at heq; cases heq
  | some k' =>
    rw [hk] at heq
    cases heq
    refine .inr ⟨k, rfl, ?_⟩
    obtain ⟨s, rfl, hmade⟩ | ⟨h₂, hr, envelope, q₂, rfl, hmade, hsign⟩ :=
      Run.takes_bind_iff.mp hrest
    · exact .inl ⟨s, rfl, making_of_takes hmade⟩
    · rw [Run.takes_enter_bind_iff] at hsign
      obtain ⟨reply, rfl, hend, rfl⟩ := Run.takes_require_iff.mp hsign
      exact .inr ⟨h₂, envelope, q₂, reply, rfl, making_of_takes hmade, hend, rfl⟩

/-- Every way that the stages of a run can take. -/
theorem course_of_takes {p : Pipeline} {request : PaymentRequest}
    {e : Except Stop (Json × String)} (htakes : (p.stages request).Takes q h e q') :
    Course p request q h e q' := by
  rw [stages] at htakes
  obtain ⟨s, rfl, hstage⟩ | ⟨h₁, hr, signed, q₁, rfl, hstage, hrest⟩ :=
    Run.takes_bind_iff.mp htakes
  · obtain ⟨hk, rfl, heq, rfl⟩ | ⟨k, hk, ⟨s', heq, hmaking⟩ |
      ⟨h₁, envelope, q₁, reply, rfl, hmaking, heq, rfl⟩⟩ := takes_sign_cases hstage
    · cases heq
      exact .source hk
    · cases heq
      exact .making k h s q' hk hmaking
    · exact .signing k h₁ envelope q₁ reply s hk hmaking heq.symm
  · obtain ⟨hk, rfl, heq, -⟩ | ⟨k, hk, ⟨s', heq, hmaking⟩ |
      ⟨h₂, envelope, q₂, reply, rfl, hmaking, heq, hq⟩⟩ := takes_sign_cases hstage
    · cases heq
    · cases heq
    · obtain rfl := Reply.verdict_eq_ok_iff.mp heq.symm
      rw [hq, Progress.after_ok, Run.takes_enter_bind_iff] at hrest
      have hsubmit : ∃ reply : Reply Json, hr = [⟨.submit signed.envelope, reply⟩] ∧
          e = ((reply.verdict (.submission signed.hash)).map fun result =>
            (result, signed.hash)) ∧
          q' = ((q₂.entered .signed).entered .submitted).after e := by
        obtain ⟨s, rfl, hcall⟩ | ⟨h₃, hr', result, q₃, rfl, hcall, hpure⟩ :=
          Run.takes_bind_iff.mp hrest
        · obtain ⟨reply, rfl, hend, rfl⟩ := Run.takes_require_iff.mp hcall
          exact ⟨reply, rfl, by rw [← hend]; rfl, rfl⟩
        · obtain ⟨reply, rfl, hend, hq'⟩ := Run.takes_require_iff.mp hcall
          obtain ⟨rfl, rfl, rfl⟩ := Run.takes_pure_iff.mp hpure
          exact ⟨reply, rfl, by rw [← hend]; rfl, hq'⟩
      obtain ⟨reply, rfl, hend, rfl⟩ := hsubmit
      simpa using Course.submission k h₂ envelope q₂ signed reply e hk hmaking hend

/-- Every run takes its stages from the start, and ends as they ended. -/
theorem takes_of_goes {p : Pipeline} {request : PaymentRequest} {r : Ended × Progress}
    (hgoes : (p.submit request).Goes h r) :
    ∃ e q', (p.stages request).Takes ⟨[.start], []⟩ h e q' ∧ r = conclude (e, q') := by
  obtain ⟨h₁, h₂, ⟨e, q'⟩, rfl, hstages, hend⟩ := Dialogue.goes_bind_iff.mp hgoes
  obtain ⟨rfl, rfl⟩ := Dialogue.goes_done_iff.mp hend
  exact ⟨e, q', by rwa [List.append_nil], rfl⟩

/-- Every run takes one of these courses from the start, and ends as its stages ended. -/
theorem course_of_goes {p : Pipeline} {request : PaymentRequest} {r : Ended × Progress}
    (hgoes : (p.submit request).Goes h r) :
    ∃ e q', Course p request ⟨[.start], []⟩ h e q' ∧ r = conclude (e, q') := by
  obtain ⟨e, q', htakes, hend⟩ := takes_of_goes hgoes
  exact ⟨e, q', course_of_takes htakes, hend⟩

/-- A run that was interrupted has the call at which this happened in its transcript. -/
theorem Assembly.interrupted_mem {p : Pipeline} {request : PaymentRequest} {k : Keypair}
    {i : Interruption} (hassembly : Assembly p request k q h (.error (.interrupted i)) q') :
    ∃ c, (⟨c, .interrupted i⟩ : (c : Call) × c.Answer) ∈ h := by
  cases hassembly with
  | resolve reply s hstop =>
    obtain rfl := Reply.eq_interrupted_of_judged hstop
    exact ⟨.resolve request.destination, by simp⟩
  | lookup d reply s hd hasset hstop =>
    obtain rfl := eq_interrupted_of_lookup hstop
    exact ⟨.account d.accountId, by simp⟩
  | memo d look t s hchosen hstop =>
    unfold memoVerdict at hstop
    split at hstop <;> cases hstop
  | load d look t m reply s hchosen hmemo hstop =>
    obtain rfl := Reply.eq_interrupted_of_verdict hstop
    exact ⟨.account k.accountId, by simp⟩
  | build d look t m snapshot e hchosen hmemo hend =>
    obtain ⟨f, -, hcause⟩ := mapError_eq_error_iff.mp hend.symm
    cases hcause

/-- A run whose stages were interrupted has that call in its transcript. -/
theorem Course.interrupted_mem {p : Pipeline} {request : PaymentRequest} {i : Interruption}
    (hcourse : Course p request q h (.error (.interrupted i)) q') :
    ∃ c, (⟨c, .interrupted i⟩ : (c : Call) × c.Answer) ∈ h := by
  cases hcourse with
  | making k h s q' hk hmaking =>
    cases hmaking with
    | relay reply e hpath hend =>
      obtain rfl := Reply.eq_interrupted_of_judged hend.symm
      exact ⟨.relay (relayRequest request k), by simp⟩
    | direct h e q' hpath hassembly => exact hassembly.interrupted_mem
  | signing k h envelope q₁ reply s hk hmaking hstop =>
    obtain rfl := Reply.eq_interrupted_of_verdict hstop
    exact ⟨.sign k envelope, by simp⟩
  | submission k h envelope q₁ signed reply e hk hmaking hend =>
    cases reply with
    | value result => cases hend
    | failed f => cases hend
    | interrupted j =>
      cases hend
      exact ⟨.submit signed.envelope, by simp⟩

end Pipeline

end Remittance
