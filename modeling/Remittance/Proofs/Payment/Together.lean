import Mathlib.Data.Fintype.BigOperators
import Remittance.Proofs.Interleaving
import Remittance.Proofs.Payment.Submission

/-!
# Payments side by side

One pipeline runs several payments at once, and what each of them asks of the collaborators comes in
between what the others ask. The main statement is about collaborators that answer by the call
alone: whatever the order, and wherever a payment is cut off from a reply by its deadline or its
caller, every payment ends as it ends by itself, with the calls that it makes by itself, and the
ledger is handed the envelopes of all of them, none twice and none of another payment.
-/

set_option autoImplicit false

namespace Remittance

open Interleaving

/-- The text of the envelope that a call hands to the ledger. -/
def Call.handed? : Call → Option String
  | .submit text => some text
  | _ => none

/-- The envelopes that calls hand to the ledger. -/
def handed (calls : List Call) : Multiset String := (calls.filterMap Call.handed? : List String)

/-- What arrives where a run may be cut off from the reply to a call. -/
def cutOff (cuts : Nat → Option Interruption) : Arrival Call Call.Answer
  | n, _, reply =>
    match cuts n with
    | some i => .interrupted i
    | none => reply

namespace Pipeline

variable {ι σ : Type}

/-- The run of a request, at a reading of the clock. -/
def runAt (p : Pipeline) (clock : Binary64) (request : PaymentRequest) :
    Dialogue Call Call.Answer (Ended × Progress) :=
  ({ p with clock } : Pipeline).submit request

/-- A run at the pipeline's own clock is a run of the pipeline. -/
theorem runAt_self (p : Pipeline) (request : PaymentRequest) :
    p.runAt p.clock request = p.submit request := rfl

/-- Requests that are run together, as a schedule has it. -/
def together [DecidableEq ι] (p : Pipeline) (clocks : ι → Binary64) (requests : ι → PaymentRequest)
    (cuts : ι → Nat → Option Interruption) (answer : σ → (c : Call) → c.Answer × σ) (s : σ)
    (schedule : List ι) : Table ι Call Call.Answer (Ended × Progress) σ :=
  (Table.start s fun i => p.runAt (clocks i) (requests i)).play answer (fun i => cutOff (cuts i))
    schedule

/-- A request that is run by itself: its end, and its calls. -/
def byItself (p : Pipeline) (clock : Binary64) (request : PaymentRequest)
    (cuts : Nat → Option Interruption) (answer : σ → (c : Call) → c.Answer × σ) (s : σ) :
    (Ended × Progress) × List Call :=
  let r := (p.runAt clock request).run (alone answer (cutOff cuts)) (s, 0)
  (r.1, r.2.1)

/-- Payments that are run together do not touch each other. The collaborators answer by the call
alone, whatever was asked of them before; the payments move in any order, and any of them may be cut
off from any reply. Each then has the calls that it has by itself, up to where it has come, and if
it has ended, all of them and the same end. It has ended if it has had two turns for each call. The
collaborators were asked by each payment what it asked, in its order, and the ledger was handed what
each of them hands it. -/
theorem payments_independent [Fintype ι] [DecidableEq ι] (p : Pipeline) (clocks : ι → Binary64)
    (requests : ι → PaymentRequest) (cuts : ι → Nat → Option Interruption)
    (answer : σ → (c : Call) → c.Answer × σ)
    (hsteady : ∀ s s' c, (answer s c).1 = (answer s' c).1) (s : σ) (schedule : List ι) :
    (∀ i s', AsAlone ((p.together clocks requests cuts answer s schedule).task i)
      (p.byItself (clocks i) (requests i) (cuts i) answer s').1
      (p.byItself (clocks i) (requests i) (cuts i) answer s').2 (schedule.count i)) ∧
    (∀ i, (p.together clocks requests cuts answer s schedule).questionsOf i =
      ((p.together clocks requests cuts answer s schedule).task i).asked) ∧
    handed ((p.together clocks requests cuts answer s schedule).log.map Prod.snd) =
      ∑ i, handed ((p.together clocks requests cuts answer s schedule).task i).asked ∧
    ((∀ i, ∃ r, ((p.together clocks requests cuts answer s schedule).task i).Ended r) → ∀ s',
      handed ((p.together clocks requests cuts answer s schedule).log.map Prod.snd) =
        ∑ i, handed (p.byItself (clocks i) (requests i) (cuts i) answer s').2) := by
  have hreply : ∀ s' c, (answer s' c).1 = (answer s c).1 := fun s' c => hsteady s' s c
  have halone : ∀ i s', AsAlone ((p.together clocks requests cuts answer s schedule).task i)
      (p.byItself (clocks i) (requests i) (cuts i) answer s').1
      (p.byItself (clocks i) (requests i) (cuts i) answer s').2 (schedule.count i) :=
    fun i s' => Table.asAlone hreply (fun i => cutOff (cuts i)) s s' _ schedule i
  have hkept : (p.together clocks requests cuts answer s schedule).Kept :=
    (Table.kept_start s _).play schedule
  have hhanded : handed ((p.together clocks requests cuts answer s schedule).log.map Prod.snd) =
      ∑ i, handed ((p.together clocks requests cuts answer s schedule).task i).asked := by
    refine (Table.log_eq_sum _ Call.handed?).trans (Finset.sum_congr rfl fun i _ => ?_)
    rw [handed, ← hkept i]
    rfl
  refine ⟨halone, hkept, hhanded, ?_⟩
  intro hended s'
  refine hhanded.trans (Finset.sum_congr rfl fun i _ => ?_)
  obtain ⟨r, hr⟩ := hended i
  rw [((halone i s').ended r hr).2]

/-- A schedule in which two runs take turns. -/
def turnAbout (rounds : Nat) : List Bool := (List.replicate rounds [false, true]).flatten

/-- In turns, each of two payments comes up equally often. -/
theorem count_turnAbout (rounds : Nat) (i : Bool) : (turnAbout rounds).count i = rounds := by
  cases i <;> simp [turnAbout, List.count_flatten]

/-- The second of two runs is given up at its second call. -/
def secondGivenUp (i : Bool) (n : Nat) : Option Interruption :=
  if i = true ∧ n = 2 then some .canceled else none

/-- Two payments of one unit that take turns, of which the second is given up. -/
def twoPayments (rounds : Nat) : Table Bool Call Call.Answer (Ended × Progress) Nat :=
  (timedPipeline 30).together (fun _ => (timedPipeline 30).clock) (fun _ => zeroRequest)
    secondGivenUp signingAnswers.answer 0 (turnAbout rounds)

/-- The calls of one of these payments by itself. -/
def callsByItself (i : Bool) : List Call :=
  ((timedPipeline 30).byItself (timedPipeline 30).clock zeroRequest (secondGivenUp i)
    signingAnswers.answer 0).2

/-- By itself, the payment that is not given up hands an envelope to the ledger. -/
theorem exists_handed_byItself : ∃ text, .submit text ∈ callsByItself false := by
  obtain ⟨-, text, reply, hsubmit⟩ := timedPipeline_submits (by decide : (0 : Int) < 30)
  have harrives : ∀ n c (reply : c.Answer), cutOff (secondGivenUp false) n c reply = reply :=
    fun _ _ _ => rfl
  refine ⟨text, ?_⟩
  rw [callsByItself, byItself, runAt_self]
  dsimp only
  rw [(run_alone_of_arrives _ harrives 0 0 _).2, ← Dialogue.questions_transcript]
  exact Transcript.mem_questions hsubmit

/-- The two payments both end, and the envelope of the one that is not given up reaches the
ledger. -/
theorem two_payments_together :
    (∀ s s' c, (signingAnswers.answer s c).1 = (signingAnswers.answer s' c).1) ∧
    ∃ rounds text, (∀ i, ∃ r, ((twoPayments rounds).task i).Ended r) ∧
      text ∈ handed ((twoPayments rounds).log.map Prod.snd) := by
  have hsteady : ∀ s s' c, (signingAnswers.answer s c).1 = (signingAnswers.answer s' c).1 := by
    intro s s' c
    cases c <;> rfl
  have hall := fun rounds => payments_independent (timedPipeline 30)
    (fun _ => (timedPipeline 30).clock) (fun _ => zeroRequest) secondGivenUp signingAnswers.answer
    hsteady 0 (turnAbout rounds)
  obtain ⟨text, hcalled⟩ := exists_handed_byItself
  have hends : ∀ rounds i, 2 * (callsByItself i).length ≤ rounds →
      ∃ r, ((twoPayments rounds).task i).Ended r := by
    intro rounds i hturns
    rw [← count_turnAbout rounds i] at hturns
    exact ⟨_, ((hall rounds).1 i 0).ends hturns⟩
  obtain ⟨rounds, hrounds⟩ : ∃ rounds, ∀ i, 2 * (callsByItself i).length ≤ rounds :=
    ⟨2 * (callsByItself false).length + 2 * (callsByItself true).length,
      Bool.forall_bool.mpr ⟨Nat.le_add_right _ _, Nat.le_add_left _ _⟩⟩
  have hended := fun i => hends rounds i (hrounds i)
  have hhanded : handed ((twoPayments rounds).log.map Prod.snd) =
      ∑ i, handed (callsByItself i) := (hall rounds).2.2.2 hended 0
  refine ⟨hsteady, rounds, text, hended, ?_⟩
  rw [hhanded, Fintype.sum_bool]
  exact Multiset.mem_add.mpr (.inr (List.mem_filterMap.mpr ⟨.submit text, hcalled, rfl⟩))

end Pipeline

end Remittance
