import Remittance.Proofs.Payment.Course

/-!
# The protocol of the calls

What a run may ask of its collaborators, and in which order: the relay and then the ledger, or the
resolver, the ledger's accounts and then the ledger. The main statement ties the calls of every run,
however it ends, to the states in its trail: the ledger takes at most one envelope, as the very last
call, and it is the one that the signer of this run gave back.
-/

set_option autoImplicit false

namespace Remittance

/-- Whether a call is put to the signer. -/
def Call.isSign : Call → Bool
  | .sign .. => true
  | _ => false

/-- Whether a call is one of those by which an envelope is made. -/
def Call.isMaking : Call → Bool
  | .sign .. => false
  | .submit _ => false
  | _ => true

/-- The calls of a transcript to the resolver, the relay and the ledger. -/
def Transcript.calls (h : CallTranscript) : List Call :=
  (Transcript.questions h).filter fun c => !c.isSign

namespace Pipeline

/-- The calls by which the compliance relay makes an envelope. -/
def relayCalls (request : PaymentRequest) (k : Keypair) : List Call :=
  [.relay (relayRequest request k)]

/-- The calls by which an envelope is assembled for a destination. -/
def assemblyCalls (request : PaymentRequest) (k : Keypair) (d : Destination) : List Call :=
  .resolve request.destination ::
    ((if request.isNative then [.account d.accountId] else []) ++ [.account k.accountId])

/-- The protocol that ties the calls of a run to the states in its trail. -/
structure Protocol (request : PaymentRequest) (h : CallTranscript) (trail : List PaymentState) :
    Prop where
  /-- The calls are the first ones of one of two rows; accounts are asked for only after the
  resolver has named the destination. -/
  shape : Transcript.calls h = [] ∨
    ∃ k text, Keypair.ofSecret? request.source = some k ∧
      (Transcript.calls h <+: relayCalls request k ++ [.submit text] ∨
        ∃ d, Transcript.calls h <+: assemblyCalls request k d ++ [.submit text] ∧
          ∀ accountId, Call.account accountId ∈ Transcript.calls h →
            ⟨.resolve request.destination, .value d⟩ ∈ h)
  /-- An envelope goes to the ledger as the last call, right after the signer gave it back. -/
  submission : ∀ before text reply after,
    h = before ++ (⟨.submit text, reply⟩ : (c : Call) × c.Answer) :: after →
      after = [] ∧ ∃ earlier k envelope signed,
        before = earlier ++ [⟨.sign k envelope, .value signed⟩] ∧ text = signed.envelope
  /-- The signer is called at most once. -/
  signedOnce : ((Transcript.questions h).filter Call.isSign).length ≤ 1
  relayed : .complianceRelay ∈ trail ↔ ∃ r, Call.relay r ∈ Transcript.questions h
  assembled : .directAssembly ∈ trail ↔
    ∃ identifier, Call.resolve identifier ∈ Transcript.questions h
  signed : .signed ∈ trail ↔ ∃ k envelope, Call.sign k envelope ∈ Transcript.questions h
  submitted : .submitted ∈ trail ↔ ∃ text, Call.submit text ∈ Transcript.questions h
  /-- The relay and the calls of an assembly never occur together. -/
  apart : ∀ r, Call.relay r ∈ Transcript.questions h →
    (∀ identifier, Call.resolve identifier ∉ Transcript.questions h) ∧
      ∀ accountId, Call.account accountId ∉ Transcript.questions h

/-- Which way an envelope was made: the state of the way, and the row of its calls. -/
inductive Way (request : PaymentRequest) (k : Keypair) (h : CallTranscript) :
    PaymentState → List Call → Prop where
  | relay (hrow : Transcript.questions h = relayCalls request k) :
    Way request k h .complianceRelay (relayCalls request k)
  | direct (d : Destination) (hrow : Transcript.questions h <+: assemblyCalls request k d)
      (hfirst : Call.resolve request.destination ∈ Transcript.questions h)
      (hresolved : ∀ accountId, Call.account accountId ∈ Transcript.questions h →
        ⟨.resolve request.destination, .value d⟩ ∈ h) :
    Way request k h .directAssembly (assemblyCalls request k d)

/-- An assembly asks the first calls of its row, and all of them if it comes to an envelope. -/
theorem Assembly.way {p : Pipeline} {request : PaymentRequest} {k : Keypair} {q q' : Progress}
    {h : CallTranscript} {e : Except Stop Envelope} (hassembly : Assembly p request k q h e q') :
    q'.trail = q.trail ∧ ∃ row, Way request k h .directAssembly row ∧
      ∀ envelope, e = .ok envelope → Transcript.questions h = row := by
  cases hassembly with
  | resolve reply s hstop =>
    refine ⟨by simp, _, .direct { accountId := "" } ?_ (by simp) (by simp), by simp⟩
    exact ⟨_, rfl⟩
  | asset d c hd hstop =>
    refine ⟨by simp, _, .direct d ?_ (by simp) (by simp), by simp⟩
    exact ⟨_, rfl⟩
  | lookup d reply s hd hasset hstop =>
    refine ⟨by simp, _, .direct d ?_ (by simp) (by simp), by simp⟩
    simp [assemblyCalls, (ofFields_isNative hasset).mpr rfl]
  | memo d look t s hchosen hstop =>
    refine ⟨by simp, _, .direct d ?_ (by simp) (by simp), by simp⟩
    simp [assemblyCalls, hchosen.questions_eq]
  | load d look t m reply s hchosen hmemo hstop =>
    refine ⟨by simp, _, .direct d ?_ (by simp) (by simp), by simp⟩
    simp [assemblyCalls, hchosen.questions_eq]
  | build d look t m snapshot e hchosen hmemo hend =>
    have hrow : Transcript.questions ((⟨.resolve request.destination, .value d⟩ ::
        (look ++ [⟨.account k.accountId, .value snapshot⟩]) : CallTranscript)) =
          assemblyCalls request k d := by
      simp [assemblyCalls, hchosen.questions_eq]
    exact ⟨by simp, _, .direct d (hrow ▸ List.prefix_rfl) (by simp) (by simp), fun _ _ => hrow⟩

/-- Every way to an envelope enters the state of its way, and asks the first calls of its row. -/
theorem Making.way {p : Pipeline} {request : PaymentRequest} {k : Keypair} {q q' : Progress}
    {h : CallTranscript} {e : Except Stop Envelope} (hmaking : Making p request k q h e q') :
    ∃ state row, Way request k h state row ∧ q'.trail = q.trail ++ [state] ∧
      ∀ envelope, e = .ok envelope → Transcript.questions h = row := by
  cases hmaking with
  | relay reply e hpath hend =>
    exact ⟨_, _, .relay rfl, by simp, fun _ _ => rfl⟩
  | direct h e q' hpath hassembly =>
    obtain ⟨htrail, row, hway, hall⟩ := hassembly.way
    refine ⟨.directAssembly, row, ?_, by simpa using htrail, hall⟩
    exact hway

namespace Way

variable {request : PaymentRequest} {k : Keypair} {h : CallTranscript} {state : PaymentState}
  {row : List Call}

/-- The calls of a way are the first ones of its row. -/
theorem questions_prefix (hway : Way request k h state row) :
    Transcript.questions h <+: row := by
  cases hway with
  | relay hrow => exact hrow ▸ List.prefix_rfl
  | direct d hrow hfirst hresolved => exact hrow

/-- No call of a way goes to the signer, and none hands an envelope to the ledger. -/
theorem isMaking_of_mem (hway : Way request k h state row) {c : Call}
    (hmem : c ∈ Transcript.questions h) : c.isMaking = true := by
  have hrow := hway.questions_prefix.subset hmem
  cases hway with
  | relay _ =>
    rw [relayCalls, List.mem_singleton] at hrow
    subst hrow
    rfl
  | direct d _ _ _ =>
    rw [assemblyCalls] at hrow
    split at hrow
    · have hcases : c = .resolve request.destination ∨ c = .account d.accountId ∨
          c = .account k.accountId := by
        simpa using hrow
      rcases hcases with rfl | rfl | rfl <;> rfl
    · have hcases : c = .resolve request.destination ∨ c = .account k.accountId := by
        simpa using hrow
      rcases hcases with rfl | rfl <;> rfl

/-- No call of a way to an envelope is one to the signer. -/
theorem isSign_eq_false (hway : Way request k h state row) {c : Call}
    (hmem : c ∈ Transcript.questions h) : c.isSign = false := by
  have hmaking := hway.isMaking_of_mem hmem
  cases c with
  | sign keypair envelope => cases hmaking
  | _ => rfl

/-- All that is asked on a way to an envelope are calls to collaborators. -/
theorem calls_eq (hway : Way request k h state row) :
    Transcript.calls h = Transcript.questions h := by
  unfold Transcript.calls
  rw [List.filter_eq_self]
  intro c hmem
  rw [hway.isSign_eq_false hmem]
  rfl

/-- The relay is asked on its own way, and on no other. -/
theorem relay_iff (hway : Way request k h state row) :
    state = .complianceRelay ↔ ∃ r, Call.relay r ∈ Transcript.questions h := by
  cases hway with
  | relay hrow => simp [hrow, relayCalls]
  | direct d hrow hfirst hresolved =>
    constructor
    · intro heq
      cases heq
    · rintro ⟨r, hmem⟩
      have hin := hrow.subset hmem
      unfold assemblyCalls at hin
      split at hin <;> simp at hin

/-- The resolver is asked wherever an assembly is tried, and nowhere else. -/
theorem resolve_iff (hway : Way request k h state row) :
    state = .directAssembly ↔ ∃ identifier, Call.resolve identifier ∈ Transcript.questions h := by
  cases hway with
  | relay hrow => simp [hrow, relayCalls]
  | direct d hrow hfirst hresolved =>
    constructor
    · intro _
      exact ⟨_, hfirst⟩
    · intro _
      rfl

/-- No account is asked for on the relay's way. -/
theorem assembled_of_account (hway : Way request k h state row) {accountId : Text}
    (hmem : Call.account accountId ∈ Transcript.questions h) : state = .directAssembly := by
  cases hway with
  | relay hrow =>
    rw [hrow, relayCalls, List.mem_singleton] at hmem
    cases hmem
  | direct d hrow hfirst hresolved => rfl

/-- A way to an envelope enters one of two states. -/
theorem state_eq (hway : Way request k h state row) :
    state = .complianceRelay ∨ state = .directAssembly := by
  cases hway with
  | relay _ => exact .inl rfl
  | direct _ _ _ _ => exact .inr rfl

end Way

/-- All calls on a way to an envelope are ones that make it. -/
theorem Making.isMaking_of_mem {p : Pipeline} {request : PaymentRequest} {k : Keypair}
    {q q' : Progress} {h : CallTranscript} {e : Except Stop Envelope}
    (hmaking : Making p request k q h e q') {x : (c : Call) × c.Answer} (hmem : x ∈ h) :
    x.1.isMaking = true := by
  obtain ⟨state, row, hway, -⟩ := hmaking.way
  exact hway.isMaking_of_mem (List.mem_map_of_mem hmem)

/-- Stages that hand an envelope to the ledger have made and signed it, and end as the ledger
answers. -/
theorem Course.of_submit {p : Pipeline} {request : PaymentRequest} {q q' : Progress}
    {h : CallTranscript} {e : Except Stop (Json × String)} {text : String} {reply : Reply Json}
    (hcourse : Course p request q h e q')
    (hsubmit : (⟨.submit text, reply⟩ : (c : Call) × c.Answer) ∈ h) :
    ∃ k envelope signed q₁ h₁, Keypair.ofSecret? request.source = some k ∧
      Making p request k q h₁ (.ok envelope) q₁ ∧ text = signed.envelope ∧
      h = h₁ ++ [⟨.sign k envelope, .value signed⟩, ⟨.submit text, reply⟩] ∧
      e = ((reply.verdict (.submission signed.hash)).map fun result => (result, signed.hash)) ∧
      q' = ((q₁.entered .signed).entered .submitted).after e := by
  cases hcourse with
  | source hk => cases hsubmit
  | making k h s q' hk hmaking => cases hmaking.isMaking_of_mem hsubmit
  | signing k h envelope q₁ reply' s hk hmaking hstop =>
    rcases List.mem_append.mp hsubmit with hin | hin
    · cases hmaking.isMaking_of_mem hin
    · rw [List.mem_singleton] at hin
      cases hin
  | submission k h envelope q₁ signed reply' e hk hmaking hend =>
    rcases List.mem_append.mp hsubmit with hin | hin
    · cases hmaking.isMaking_of_mem hin
    · rcases List.mem_cons.mp hin with hin | hin
      · cases hin
      · rw [List.mem_singleton] at hin
        cases hin
        exact ⟨k, envelope, signed, q₁, h, hk, hmaking, rfl, rfl, hend, rfl⟩

/-- An envelope that was signed is handed to the ledger. -/
theorem Course.submit_of_signed {p : Pipeline} {request : PaymentRequest} {q q' : Progress}
    {h : CallTranscript} {e : Except Stop (Json × String)} {k : Keypair} {envelope : Envelope}
    {signed : Signed} (hcourse : Course p request q h e q')
    (hsigned : (⟨.sign k envelope, .value signed⟩ : (c : Call) × c.Answer) ∈ h) :
    ∃ reply, (⟨.submit signed.envelope, reply⟩ : (c : Call) × c.Answer) ∈ h := by
  cases hcourse with
  | source hk => cases hsigned
  | making k h s q' hk hmaking => cases hmaking.isMaking_of_mem hsigned
  | signing k h envelope q₁ reply s hk hmaking hstop =>
    rcases List.mem_append.mp hsigned with hin | hin
    · cases hmaking.isMaking_of_mem hin
    · rw [List.mem_singleton] at hin
      cases hin
      cases hstop
  | submission k h envelope q₁ signed' reply e hk hmaking hend =>
    rcases List.mem_append.mp hsigned with hin | hin
    · cases hmaking.isMaking_of_mem hin
    · rcases List.mem_cons.mp hin with hin | hin
      · cases hin
        exact ⟨reply, by simp⟩
      · rw [List.mem_singleton] at hin
        cases hin

/-- What follows once an envelope was made, and the states that are entered: nothing, a signature,
or a signature and the submission of what was signed. -/
inductive Handed (k : Keypair) : CallTranscript → List PaymentState → Prop where
  | nothing : Handed k [] []
  | signing (envelope : Envelope) (reply : Reply Signed) :
    Handed k [⟨.sign k envelope, reply⟩] [.signed]
  | submission (envelope : Envelope) (signed : Signed) (reply : Reply Json) :
    Handed k [⟨.sign k envelope, .value signed⟩, ⟨.submit signed.envelope, reply⟩]
      [.signed, .submitted]

/-- A list that has one element of a kind, as its last one, splits at that element in one way. -/
theorem split_at_last {α : Type} {kind : α → Prop} {init before after : List α} {x y : α}
    (hinit : ∀ z ∈ init, ¬ kind z) (hx : kind x) (heq : init ++ [y] = before ++ x :: after) :
    after = [] ∧ before = init ∧ x = y := by
  rcases List.eq_nil_or_concat after with rfl | ⟨rest, z, rfl⟩
  · obtain ⟨hbefore, hlast⟩ := List.append_inj' heq rfl
    cases hlast
    exact ⟨rfl, hbefore.symm, rfl⟩
  · have hcut : init ++ [y] = (before ++ x :: rest) ++ [z] := by
      rw [heq]
      simp
    obtain ⟨hfront, -⟩ := List.append_inj' hcut rfl
    have hmem : x ∈ init := by
      rw [hfront]
      simp
    exact absurd hx (hinit x hmem)

section Handed

variable {request : PaymentRequest} {k : Keypair} {h tail : CallTranscript} {state : PaymentState}
  {row : List Call} {states : List PaymentState}

/-- The calls of a way and of what follows are the first ones of its row with a submission. -/
theorem Way.calls_prefix (hway : Way request k h state row) (htail : Handed k tail states)
    (hrow : tail ≠ [] → Transcript.questions h = row) :
    ∃ text, Transcript.calls (h ++ tail) <+: row ++ [.submit text] := by
  have hmade := hway.questions_prefix.trans (List.prefix_append row [.submit ""])
  have hsplit : Transcript.calls (h ++ tail) = Transcript.questions h ++ Transcript.calls tail := by
    rw [← hway.calls_eq]
    simp [Transcript.calls]
  rw [hsplit]
  cases htail with
  | nothing => exact ⟨"", by simpa [Transcript.calls] using hmade⟩
  | signing envelope reply =>
    exact ⟨"", by simpa [Transcript.calls, Call.isSign] using hmade⟩
  | submission envelope signed reply =>
    refine ⟨signed.envelope, ?_⟩
    rw [hrow (by simp)]
    simp [Transcript.calls, Call.isSign]

/-- An envelope goes to the ledger last, right after the signer gave it back. -/
theorem Way.submission (hway : Way request k h state row) (htail : Handed k tail states)
    {before after : CallTranscript} {text : String} {reply : Reply Json}
    (heq : h ++ tail = before ++ (⟨.submit text, reply⟩ : (c : Call) × c.Answer) :: after) :
    after = [] ∧ ∃ earlier k envelope signed,
      before = earlier ++ [⟨.sign k envelope, .value signed⟩] ∧ text = signed.envelope := by
  have hnever : ∀ x ∈ h, ¬ ∃ t, x.1 = Call.submit t := by
    rintro x hx ⟨t, hsubmit⟩
    have hmaking := hway.isMaking_of_mem (List.mem_map_of_mem hx)
    rw [hsubmit] at hmaking
    cases hmaking
  have hmem : (⟨.submit text, reply⟩ : (c : Call) × c.Answer) ∈ h ++ tail := by
    rw [heq]
    simp
  cases htail with
  | nothing =>
    rw [List.append_nil] at hmem
    exact absurd ⟨text, rfl⟩ (hnever _ hmem)
  | signing envelope reply' =>
    rcases List.mem_append.mp hmem with hin | hin
    · exact absurd ⟨text, rfl⟩ (hnever _ hin)
    · rw [List.mem_singleton] at hin
      cases hin
  | submission envelope signed reply' =>
    -- Nothing before the last call hands over an envelope, so there is one place to split at.
    have hinit : ∀ x ∈ h ++ [⟨.sign k envelope, .value signed⟩], ¬ ∃ t, x.1 = Call.submit t := by
      intro x hx
      rcases List.mem_append.mp hx with hin | hin
      · exact hnever x hin
      · rw [List.mem_singleton] at hin
        subst hin
        rintro ⟨t, hsubmit⟩
        cases hsubmit
    rw [← List.singleton_append, ← List.append_assoc] at heq
    obtain ⟨hafter, hbefore, hlast⟩ := split_at_last hinit ⟨text, rfl⟩ heq
    cases hlast
    exact ⟨hafter, h, k, envelope, signed, hbefore, rfl⟩

/-- A way to an envelope with what follows keeps the protocol. -/
theorem Way.protocol (hk : Keypair.ofSecret? request.source = some k)
    (hway : Way request k h state row) (htail : Handed k tail states)
    (hrow : tail ≠ [] → Transcript.questions h = row) :
    Protocol request (h ++ tail) (.start :: state :: states) where
  shape := by
    obtain ⟨text, hcalls⟩ := hway.calls_prefix htail hrow
    refine .inr ⟨k, text, hk, ?_⟩
    cases hway with
    | relay _ => exact .inl hcalls
    | direct d _ _ hresolved =>
      refine .inr ⟨d, hcalls, ?_⟩
      intro accountId hmem
      have hin : Call.account accountId ∈ Transcript.questions h := by
        cases htail <;> simpa [Transcript.calls, Call.isSign] using hmem
      exact List.mem_append_left _ (hresolved accountId hin)
  submission := by
    intro before text reply after heq
    exact hway.submission htail heq
  signedOnce := by
    have hnone : (Transcript.questions h).filter Call.isSign = [] := by
      rw [List.filter_eq_nil_iff]
      intro c hmem hsign
      rw [hway.isSign_eq_false hmem] at hsign
      cases hsign
    rw [Transcript.questions_append, List.filter_append, hnone]
    cases htail with
    | nothing => exact Nat.zero_le 1
    | signing envelope reply => exact Nat.le_refl 1
    | submission envelope signed reply => exact Nat.le_refl 1
  relayed := by
    cases htail <;> simp [← hway.relay_iff, eq_comm]
  assembled := by
    cases htail <;> simp [← hway.resolve_iff, eq_comm]
  signed := by
    have hnone : ∀ k envelope, Call.sign k envelope ∉ Transcript.questions h := by
      intro k envelope hmem
      cases hway.isMaking_of_mem hmem
    rcases hway.state_eq with rfl | rfl <;> cases htail <;> simp [hnone]
  submitted := by
    have hnone : ∀ text, Call.submit text ∉ Transcript.questions h := by
      intro text hmem
      cases hway.isMaking_of_mem hmem
    rcases hway.state_eq with rfl | rfl <;> cases htail <;> simp [hnone]
  apart := by
    intro r hrelay
    have hrelayed : state = .complianceRelay :=
      hway.relay_iff.mpr ⟨r, by cases htail <;> simpa using hrelay⟩
    constructor
    · intro identifier hmem
      have hdirect : state = .directAssembly :=
        hway.resolve_iff.mpr ⟨identifier, by cases htail <;> simpa using hmem⟩
      cases hrelayed.symm.trans hdirect
    · intro accountId hmem
      have hin : Call.account accountId ∈ Transcript.questions h := by
        cases htail <;> simpa using hmem
      have hdirect := hway.assembled_of_account hin
      cases hrelayed.symm.trans hdirect

end Handed

/-- A run that stops at its secret keeps the protocol: nobody is called. -/
theorem protocol_nil (request : PaymentRequest) : Protocol request [] [.start] where
  shape := .inl rfl
  submission := by
    intro before text reply after heq
    simp at heq
  signedOnce := Nat.zero_le 1
  relayed := by simp
  assembled := by simp
  signed := by simp
  submitted := by simp
  apart := by simp

/-- Every course from the start keeps the protocol. -/
theorem Course.protocol {p : Pipeline} {request : PaymentRequest} {records : List Record}
    {h : CallTranscript} {e : Except Stop (Json × String)} {q' : Progress}
    (hcourse : Course p request ⟨[.start], records⟩ h e q') : Protocol request h q'.trail := by
  cases hcourse with
  | source hk => simpa using protocol_nil request
  | making k h s q' hk hmaking =>
    obtain ⟨state, row, hway, htrail, -⟩ := hmaking.way
    rw [htrail]
    simpa using hway.protocol hk .nothing (by simp)
  | signing k h envelope q₁ reply s hk hmaking hstop =>
    obtain ⟨state, row, hway, htrail, hall⟩ := hmaking.way
    have hprotocol := hway.protocol hk (.signing envelope reply) fun _ => hall _ rfl
    simpa [htrail] using hprotocol
  | submission k h envelope q₁ signed reply e hk hmaking hend =>
    obtain ⟨state, row, hway, htrail, hall⟩ := hmaking.way
    have hprotocol := hway.protocol hk (.submission envelope signed reply) fun _ => hall _ rfl
    simpa [htrail] using hprotocol

/-- The end of a run adds a last state at most, and an outcome holds the whole trail. -/
theorem conclude_trail (e : Except Stop (Json × String)) (q : Progress) :
    (∃ last, (∀ s ∈ last, s = .done ∨ s = .failed) ∧
      (conclude (e, q)).2.trail = q.trail ++ last) ∧
    ∀ o, (conclude (e, q)).1 = .outcome o → o.trail = (conclude (e, q)).2.trail := by
  have hfailed : ∀ code, ∃ last, (∀ s ∈ last, s = PaymentState.done ∨ s = .failed) ∧
      (failed q code).trail = q.trail ++ last := by
    intro code
    exact ⟨[.failed], by simp, rfl⟩
  cases e with
  | ok result => exact ⟨⟨[.done], by simp, rfl⟩, by rintro o ⟨⟩; rfl⟩
  | error s =>
    cases s with
    | cause c => exact ⟨hfailed _, by rintro o ⟨⟩; rfl⟩
    | escaped t => exact ⟨⟨[], by simp, by simp [conclude]⟩, by rintro o ⟨⟩⟩
    | interrupted i =>
      cases i with
      | deadline => exact ⟨hfailed _, by rintro o ⟨⟩; rfl⟩
      | canceled => exact ⟨hfailed _, by rintro o ⟨⟩⟩

/-- The last state of a run has no part in the protocol. -/
theorem Protocol.append {request : PaymentRequest} {h : CallTranscript}
    {trail last : List PaymentState} (hprotocol : Protocol request h trail)
    (hlast : ∀ s ∈ last, s = .done ∨ s = .failed) : Protocol request h (trail ++ last) := by
  have hmem : ∀ s, s ≠ PaymentState.done → s ≠ .failed → (s ∈ trail ++ last ↔ s ∈ trail) := by
    intro s hdone hfailed
    rw [List.mem_append, or_iff_left]
    intro hin
    rcases hlast s hin with heq | heq
    · exact hdone heq
    · exact hfailed heq
  exact { hprotocol with
    relayed := (hmem .complianceRelay nofun nofun).trans hprotocol.relayed
    assembled := (hmem .directAssembly nofun nofun).trans hprotocol.assembled
    signed := (hmem .signed nofun nofun).trans hprotocol.signed
    submitted := (hmem .submitted nofun nofun).trans hprotocol.submitted }

/-- Every run keeps the protocol of the calls, however it ends. What answers may hold any state, so
an answer may depend on all that was asked before. -/
theorem calls_follow_protocol (p : Pipeline) (request : PaymentRequest) {σ : Type}
    (answer : σ → (c : Call) → c.Answer × σ) (s : σ) :
    Protocol request ((p.submit request).transcript answer s)
        ((p.submit request).run answer s).1.2.trail ∧
      ∀ o, ((p.submit request).run answer s).1.1 = .outcome o →
        o.trail = ((p.submit request).run answer s).1.2.trail := by
  obtain ⟨e, q', hcourse, heq⟩ := course_of_goes (Dialogue.goes_run answer s (p.submit request))
  obtain ⟨⟨last, hlast, htrail⟩, houtcome⟩ := conclude_trail e q'
  rw [heq]
  refine ⟨?_, houtcome⟩
  rw [htrail]
  exact hcourse.protocol.append hlast

end Pipeline

end Remittance
