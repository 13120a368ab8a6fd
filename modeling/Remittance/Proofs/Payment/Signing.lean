import Remittance.Proofs.Ledger.Canonical
import Remittance.Proofs.Payment.Agreement

/-!
# Runs that come to the signer

A run that has made an envelope comes to the signer, and fails right there exactly if the signer
gives nothing back. A signer that signs here gives something back exactly if the fee of the
transaction fits its word: every other part of a transaction is written without fail, and an
envelope without signatures has room for one.
-/

set_option autoImplicit false

namespace Remittance

/-- An unsigned envelope is signed here exactly if the fee of its transaction fits its word. -/
theorem exists_signHere_iff {k : Keypair} {e : Envelope} (hunsigned : e.signatures = []) :
    (∃ signed, Connections.signHere k e = .value signed) ↔
      0 ≤ e.transaction.fee ∧ e.transaction.fee < 2 ^ 32 := by
  rw [← Transaction.isSome_encode?_iff]
  constructor
  · rintro ⟨signed, hsigned⟩
    by_contra hfits
    rw [Bool.not_eq_true, Option.isSome_eq_false_iff, Option.isNone_iff_eq_none] at hfits
    rw [signHere_of_unwritable k hfits] at hsigned
    cases hsigned
  · exact exists_signed hunsigned

namespace Pipeline

variable {p : Pipeline} {request : PaymentRequest} {q q' : Progress} {h : CallTranscript}

/-- The end of a run adds one last state, unless a long numeral stopped it. -/
theorem conclude_trail_eq (e : Except Stop (Json × String)) (q : Progress) :
    (∃ t, e = .error (.escaped t)) ∨
      (conclude (e, q)).2.trail = q.trail ++ [if e.toOption.isSome then .done else .failed] := by
  cases e with
  | ok result => exact .inr rfl
  | error s =>
    cases s with
    | cause c => exact .inr rfl
    | escaped t => exact .inl ⟨t, rfl⟩
    | interrupted i =>
      right
      cases i <;> rfl

/-- A run that came to the signer made an envelope before, and fails right there exactly if the
signer gave nothing back. -/
theorem Course.failed_at_signing_iff {records : List Record} {e : Except Stop (Json × String)}
    (hcourse : Course p request ⟨[.start], records⟩ h e q')
    (hopen : Progress.Open ⟨[.start], records⟩) (hsigned : .signed ∈ (conclude (e, q')).2.trail) :
    ∃ k envelope q₁ h₁ reply later, Making p request k ⟨[.start], records⟩ h₁ (.ok envelope) q₁ ∧
      h = h₁ ++ ⟨.sign k envelope, reply⟩ :: later ∧
      ([.signed, .failed] <:+ (conclude (e, q')).2.trail ↔ ∀ signed, reply ≠ .value signed) := by
  have hentered := mem_trail_of_conclude hsigned nofun nofun
  cases hcourse with
  | source hk => simp at hentered
  | making k h s q' hk hmaking =>
    obtain ⟨htrail, -⟩ := hmaking.entered hopen
    rcases p.route_eq request with hroute | hroute <;> simp [htrail, hroute] at hentered
  | signing k h₁ envelope q₁ reply s hk hmaking hstop =>
    refine ⟨k, envelope, q₁, h₁, reply, [], hmaking, rfl, ?_⟩
    have hnone : ∀ signed, reply ≠ .value signed := by
      rintro signed rfl
      cases hstop
    refine iff_of_true ?_ hnone
    rcases conclude_trail_eq (.error s) ((q₁.entered .signed).stopped s) with ⟨t, heq⟩ | htrail
    · cases heq
      exact absurd hstop verdict_ne_escaped
    · rw [htrail, Progress.trail_stopped, Progress.trail_entered, List.append_assoc]
      exact List.suffix_append _ _
  | submission k h₁ envelope q₁ signed reply e hk hmaking hend =>
    refine ⟨k, envelope, q₁, h₁, .value signed, _, hmaking, rfl, ?_⟩
    refine iff_of_false ?_ fun hnone => hnone signed rfl
    rintro ⟨front, hfront⟩
    rcases conclude_trail_eq e (((q₁.entered .signed).entered .submitted).after e) with
      ⟨t, rfl⟩ | htrail
    · cases reply <;> cases hend
    · -- The state before the last one is that of the submission.
      rw [htrail, Progress.trail_after, Progress.trail_entered, List.append_assoc] at hfront
      have hlast := (List.append_inj' hfront rfl).2
      simp at hlast

/-- Where the signer signs here, a run that came to it fails right there exactly if the fee of what
it made does not fit its word. -/
theorem failed_at_signing_iff {σ : Type} {answer : σ → (c : Call) → c.Answer × σ} {s : σ}
    (hsigner : ∀ s k e, (answer s (.sign k e)).1 = Connections.signHere k e)
    (hsigned : .signed ∈ ((p.submit request).run answer s).1.2.trail) :
    ∃ k envelope q₁ h₁, Making p request k ⟨[.start], []⟩ h₁ (.ok envelope) q₁ ∧
      ([.signed, .failed] <:+ ((p.submit request).run answer s).1.2.trail ↔
        ¬ (0 ≤ envelope.transaction.fee ∧ envelope.transaction.fee < 2 ^ 32)) := by
  have hmem := @Dialogue.exists_state_of_mem_transcript _ _ _ _ answer s (p.submit request)
  obtain ⟨e, q', hcourse, heq⟩ := course_of_goes (Dialogue.goes_run answer s (p.submit request))
  rw [heq] at hsigned ⊢
  generalize (p.submit request).transcript answer s = h at hcourse hmem
  obtain ⟨k, envelope, q₁, h₁, reply, later, hmaking, rfl, hfailed⟩ :=
    hcourse.failed_at_signing_iff Progress.open_start hsigned
  refine ⟨k, envelope, q₁, h₁, hmaking, ?_⟩
  obtain ⟨s', hreply⟩ := hmem (List.mem_append_right h₁ List.mem_cons_self)
  rw [hfailed, ← exists_signHere_iff (k := k) hmaking.unsigned, ← hreply, hsigner]
  simp

end Pipeline

end Remittance
