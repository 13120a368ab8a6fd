import Remittance.Payment.Pipeline
import Remittance.Proofs.Computation
import Remittance.Proofs.Transcript

/-!
# Parts of a run

How the parts of a payment run go: a part that is started from some progress goes by a transcript
of its calls to an end and to a further progress. There is one rule for each way to put parts
together, so that no proof about a stage has to open the stack of effects below it.
-/

set_option autoImplicit false

namespace Remittance

/-- What was said in a run: its calls with their replies. -/
abbrev CallTranscript : Type := Transcript Call Call.Answer

/-- The progress after a state was entered. -/
def Progress.entered (p : Progress) (s : PaymentState) : Progress :=
  { p with trail := p.trail ++ [s] }

/-- The progress after a record was written. -/
def Progress.noted (p : Progress) (r : Record) : Progress :=
  { p with records := p.records ++ [r] }

/-- The progress after a run has stopped: a cause has been recorded, nothing else is. -/
def Progress.stopped (p : Progress) : Stop → Progress
  | .cause c => p.noted c.record
  | _ => p

/-- The progress after a part of a run that records nothing but the cause of a failure. -/
def Progress.after {α : Type} (p : Progress) : Except Stop α → Progress
  | .ok _ => p
  | .error s => p.stopped s

namespace Progress

variable {α : Type}

/-- A state that is entered is the last of the trail. -/
@[simp] theorem trail_entered (p : Progress) (s : PaymentState) :
    (p.entered s).trail = p.trail ++ [s] := rfl

/-- A record does not change the trail. -/
@[simp] theorem trail_noted (p : Progress) (r : Record) : (p.noted r).trail = p.trail := rfl

/-- A stop does not change the trail. -/
@[simp] theorem trail_stopped (p : Progress) (s : Stop) : (p.stopped s).trail = p.trail := by
  cases s <;> rfl

/-- After a value nothing is noted. -/
@[simp] theorem after_ok (p : Progress) (a : α) : p.after (.ok a) = p := rfl

/-- After a stop there is what the stop leaves. -/
@[simp] theorem after_error (p : Progress) (s : Stop) :
    p.after (.error s : Except Stop α) = p.stopped s := rfl

/-- What a reply comes to does not change the trail. -/
@[simp] theorem trail_after (p : Progress) (e : Except Stop α) : (p.after e).trail = p.trail := by
  cases e with
  | ok a => rfl
  | error s => exact trail_stopped p s

end Progress

namespace Reply

variable {α : Type}

/-- What a reply comes to where a failure is dealt with by the caller. -/
def caught : Reply α → Except Stop (Except Failure α)
  | .value a => .ok (.ok a)
  | .failed f => .ok (.error f)
  | .interrupted i => .error (.interrupted i)

/-- What a reply comes to where every failure is a cause. -/
def verdict (cause : Failure → Cause) : Reply α → Except Stop α
  | .value a => .ok a
  | .failed f => .error (.cause (cause f))
  | .interrupted i => .error (.interrupted i)

/-- What a reply comes to where every failure is a cause and a value is checked. -/
def judged {β : Type} (cause : Failure → Cause) (check : α → Except Cause β) :
    Reply α → Except Stop β
  | .value a => (check a).mapError .cause
  | .failed f => .error (.cause (cause f))
  | .interrupted i => .error (.interrupted i)

/-- A verdict is a value exactly if the reply is. -/
theorem verdict_eq_ok_iff {cause : Failure → Cause} {reply : Reply α} {a : α} :
    reply.verdict cause = .ok a ↔ reply = .value a := by
  cases reply <;> simp [Reply.verdict]

/-- A verdict is interrupted only if the reply is. -/
theorem eq_interrupted_of_verdict {cause : Failure → Cause} {reply : Reply α} {i : Interruption}
    (hstop : reply.verdict cause = .error (.interrupted i)) : reply = .interrupted i := by
  cases reply <;> cases hstop
  rfl

end Reply

/-- What is judged is interrupted only if the reply is. -/
theorem Reply.eq_interrupted_of_judged {α β : Type} {cause : Failure → Cause}
    {check : α → Except Cause β} {reply : Reply α} {i : Interruption}
    (hstop : reply.judged cause check = .error (.interrupted i)) : reply = .interrupted i := by
  cases reply with
  | value a =>
    obtain ⟨c, -, hcause⟩ := mapError_eq_error_iff.mp hstop
    cases hcause
  | failed f => cases hstop
  | interrupted j =>
    cases hstop
    rfl

namespace Run

variable {α β : Type} {p p' : Progress} {h : CallTranscript}

/-- A part of a run, started from a progress, goes by a transcript to an end and a progress. -/
def Takes (r : Run α) (p : Progress) (h : CallTranscript) (e : Except Stop α) (p' : Progress) :
    Prop :=
  (r.start p).Goes h (e, p')

/-- To give a value asks nothing and leaves no trace. -/
theorem start_pure (a : α) (p : Progress) : (pure a : Run α).start p = .done (.ok a, p) := rfl

/-- So does to stop. -/
theorem start_throw (s : Stop) (p : Progress) :
    (throw s : Run α).start p = .done (.error s, p) := rfl

/-- To enter a state adds it to the trail. -/
theorem start_enter (s : PaymentState) (p : Progress) :
    (enter s).start p = .done (.ok (), p.entered s) := rfl

/-- To log a record adds it to the records. -/
theorem start_log (r : Record) (p : Progress) : (log r).start p = .done (.ok (), p.noted r) := rfl

/-- To fail logs the record of the cause. -/
theorem start_fail (c : Cause) (p : Progress) :
    (fail c : Run α).start p = .done (.error (.cause c), p.noted c.record) := rfl

/-- Where a part that goes on with the result of another gets to. -/
theorem start_bind (r : Run α) (f : α → Run β) (p : Progress) :
    (r >>= f).start p = (r.start p).bind fun x =>
      match x with
      | (.ok a, q) => (f a).start q
      | (.error s, q) => .done (.error s, q) := by
  change ((r.start p).bind fun x => ExceptT.bindCont f x.1 x.2) = _
  congr 1
  funext x
  obtain ⟨e, q⟩ := x
  cases e <;> rfl

/-- What a call comes to. -/
theorem start_call (c : Call) (p : Progress) :
    (call c).start p = .ask c fun reply => .done (reply.caught, p) := by
  change (Dialogue.ask c fun reply => _) = Dialogue.ask c _
  congr 1
  funext reply
  cases reply <;> rfl

/-- To give a value takes no call. -/
theorem takes_pure_iff {a : α} {e : Except Stop α} :
    (pure a : Run α).Takes p h e p' ↔ h = [] ∧ e = .ok a ∧ p' = p := by
  rw [Takes, start_pure, Dialogue.goes_done_iff, Prod.mk.injEq]

/-- To stop takes no call. -/
theorem takes_throw_iff {s : Stop} {e : Except Stop α} :
    (throw s : Run α).Takes p h e p' ↔ h = [] ∧ e = .error s ∧ p' = p := by
  rw [Takes, start_throw, Dialogue.goes_done_iff, Prod.mk.injEq]

/-- To fail takes no call, and logs its record. -/
theorem takes_fail_iff {c : Cause} {e : Except Stop α} :
    (fail c : Run α).Takes p h e p' ↔ h = [] ∧ e = .error (.cause c) ∧ p' = p.noted c.record := by
  rw [Takes, start_fail, Dialogue.goes_done_iff, Prod.mk.injEq]

/-- A part that goes on with the result of another stops where the first one stops, or takes the
steps of both. -/
theorem takes_bind_iff {r : Run α} {f : α → Run β} {e : Except Stop β} :
    (r >>= f).Takes p h e p' ↔
      (∃ s, e = .error s ∧ r.Takes p h (.error s) p') ∨
        ∃ h₁ h₂ a q, h = h₁ ++ h₂ ∧ r.Takes p h₁ (.ok a) q ∧ (f a).Takes q h₂ e p' := by
  simp only [Takes, start_bind, Dialogue.goes_bind_iff]
  constructor
  · rintro ⟨h₁, h₂, ⟨e₁, q⟩, rfl, hfirst, hsecond⟩
    cases e₁ with
    | error s =>
      obtain ⟨rfl, heq⟩ := Dialogue.goes_done_iff.mp hsecond
      cases heq
      exact .inl ⟨s, rfl, by simpa using hfirst⟩
    | ok a => exact .inr ⟨h₁, h₂, a, q, rfl, hfirst, hsecond⟩
  · rintro (⟨s, rfl, hfirst⟩ | ⟨h₁, h₂, a, q, rfl, hfirst, hsecond⟩)
    · exact ⟨h, [], (.error s, p'), by simp, hfirst, .done _⟩
    · exact ⟨h₁, h₂, (.ok a, q), rfl, hfirst, hsecond⟩

/-- A part that enters a state first. -/
theorem takes_enter_bind_iff {state : PaymentState} {r : Unit → Run α}
    {e : Except Stop α} :
    (enter state >>= r).Takes p h e p' ↔ (r ()).Takes (p.entered state) h e p' := by
  rw [Takes, start_bind, start_enter]
  exact Iff.rfl

/-- A part that writes a record first. -/
theorem takes_log_bind_iff {record : Record} {r : Unit → Run α} {e : Except Stop α} :
    (log record >>= r).Takes p h e p' ↔ (r ()).Takes (p.noted record) h e p' := by
  rw [Takes, start_bind, start_log]
  exact Iff.rfl

/-- A call leaves the progress as it is, and its reply decides how it ends. -/
theorem takes_call_iff {c : Call} {e : Except Stop (Except Failure c.Value)} :
    (call c).Takes p h e p' ↔ ∃ reply, h = [⟨c, reply⟩] ∧ e = reply.caught ∧ p' = p := by
  simp only [Takes, start_call, Dialogue.goes_ask_iff, Dialogue.goes_done_iff, Prod.mk.injEq]
  constructor
  · rintro ⟨reply, h', rfl, rfl, he, hp⟩
    exact ⟨reply, rfl, he, hp⟩
  · rintro ⟨reply, rfl, he, hp⟩
    exact ⟨reply, [], rfl, rfl, he, hp⟩

/-- A part that makes a call first stops at an interruption, and else goes on with the value or the
failure. -/
theorem takes_call_bind_iff {c : Call} {r : Except Failure c.Value → Run α} {e : Except Stop α} :
    (call c >>= r).Takes p h e p' ↔
      ∃ reply h', h = ⟨c, reply⟩ :: h' ∧
        ((∃ i, reply = .interrupted i ∧ h' = [] ∧ e = .error (.interrupted i) ∧ p' = p) ∨
          (∃ a, reply = .value a ∧ (r (.ok a)).Takes p h' e p') ∨
            ∃ f, reply = .failed f ∧ (r (.error f)).Takes p h' e p') := by
  rw [takes_bind_iff]
  simp only [takes_call_iff]
  constructor
  · rintro (⟨s, rfl, reply, rfl, heq, rfl⟩ | ⟨h₁, h₂, x, q, rfl, ⟨reply, rfl, heq, rfl⟩, hrest⟩)
    · cases reply <;> cases heq
      exact ⟨_, [], rfl, .inl ⟨_, rfl, rfl, rfl, rfl⟩⟩
    · cases reply with
      | value a =>
        cases heq
        exact ⟨_, h₂, rfl, .inr (.inl ⟨a, rfl, hrest⟩)⟩
      | failed f =>
        cases heq
        exact ⟨_, h₂, rfl, .inr (.inr ⟨f, rfl, hrest⟩)⟩
      | interrupted i => cases heq
  · rintro ⟨reply, h', rfl, ⟨i, rfl, rfl, rfl, rfl⟩ | ⟨a, rfl, hrest⟩ | ⟨f, rfl, hrest⟩⟩
    · exact .inl ⟨_, rfl, _, rfl, rfl, rfl⟩
    · exact .inr ⟨_, h', .ok a, p, rfl, ⟨_, rfl, rfl, rfl⟩, hrest⟩
    · exact .inr ⟨_, h', .error f, p, rfl, ⟨_, rfl, rfl, rfl⟩, hrest⟩

/-- A call of which every failure is a cause ends as its reply says. -/
theorem takes_require_iff {c : Call} {cause : Failure → Cause} {e : Except Stop c.Value} :
    (require c cause).Takes p h e p' ↔
      ∃ reply, h = [⟨c, reply⟩] ∧ e = reply.verdict cause ∧ p' = p.after e := by
  rw [require, takes_call_bind_iff]
  constructor
  · rintro ⟨reply, h', rfl, ⟨i, rfl, rfl, rfl, rfl⟩ | ⟨a, rfl, hrest⟩ | ⟨f, rfl, hrest⟩⟩
    · exact ⟨_, rfl, rfl, rfl⟩
    · obtain ⟨rfl, rfl, rfl⟩ := takes_pure_iff.mp hrest
      exact ⟨_, rfl, rfl, rfl⟩
    · obtain ⟨rfl, rfl, rfl⟩ := takes_fail_iff.mp hrest
      exact ⟨_, rfl, rfl, rfl⟩
  · rintro ⟨reply, rfl, rfl, rfl⟩
    refine ⟨reply, [], rfl, ?_⟩
    cases reply with
    | value a => exact .inr (.inl ⟨a, rfl, takes_pure_iff.mpr ⟨rfl, rfl, rfl⟩⟩)
    | failed f => exact .inr (.inr ⟨f, rfl, takes_fail_iff.mpr ⟨rfl, rfl, rfl⟩⟩)
    | interrupted i => exact .inl ⟨i, rfl, rfl, rfl, rfl⟩

/-- A check that may name a cause ends as the check says, without a call. -/
theorem takes_ofExcept_iff {x : Except Cause α} {e : Except Stop α} :
    (ofExcept x).Takes p h e p' ↔ h = [] ∧ e = x.mapError .cause ∧ p' = p.after e := by
  cases x with
  | ok a =>
    rw [ofExcept, takes_pure_iff]
    constructor <;> (rintro ⟨rfl, rfl, rfl⟩; exact ⟨rfl, rfl, rfl⟩)
  | error c =>
    rw [ofExcept, takes_fail_iff]
    constructor <;> (rintro ⟨rfl, rfl, rfl⟩; exact ⟨rfl, rfl, rfl⟩)

/-- A call whose value is checked ends as its reply and the check say. -/
theorem takes_require_ofExcept_iff {c : Call} {cause : Failure → Cause}
    {check : c.Value → Except Cause β} {e : Except Stop β} :
    (require c cause >>= fun a => ofExcept (check a)).Takes p h e p' ↔
      ∃ reply, h = [⟨c, reply⟩] ∧ e = reply.judged cause check ∧ p' = p.after e := by
  rw [takes_bind_iff]
  constructor
  · rintro (⟨s, rfl, hcall⟩ | ⟨h₁, h₂, a, q, rfl, hcall, hrest⟩)
    · obtain ⟨reply, rfl, heq, rfl⟩ := takes_require_iff.mp hcall
      cases reply <;> cases heq <;> exact ⟨_, rfl, rfl, rfl⟩
    · obtain ⟨reply, rfl, heq, rfl⟩ := takes_require_iff.mp hcall
      cases reply with
      | value b =>
        cases heq
        obtain ⟨rfl, rfl, rfl⟩ := takes_ofExcept_iff.mp hrest
        exact ⟨_, rfl, rfl, rfl⟩
      | failed f => cases heq
      | interrupted i => cases heq
  · rintro ⟨reply, rfl, rfl, rfl⟩
    cases reply with
    | value a =>
      exact .inr ⟨_, [], a, p, rfl, takes_require_iff.mpr ⟨_, rfl, rfl, rfl⟩,
        takes_ofExcept_iff.mpr ⟨rfl, rfl, rfl⟩⟩
    | failed f => exact .inl ⟨_, rfl, takes_require_iff.mpr ⟨_, rfl, rfl, rfl⟩⟩
    | interrupted i => exact .inl ⟨_, rfl, takes_require_iff.mpr ⟨_, rfl, rfl, rfl⟩⟩

end Run

end Remittance
