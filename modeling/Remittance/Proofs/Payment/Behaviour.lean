import Remittance.Proofs.Payment.Part

/-!
# Behaviours of collaborators

What the collaborators do, apart from any run: for each call what they answer if it is the call at
that place. A transcript without interruptions agrees with some behaviour, and with many, as it says
nothing of the calls that were not made.
-/

set_option autoImplicit false

namespace Remittance

/-- What the collaborators answer to a call, if so many calls were made before. -/
abbrev Behaviour : Type := (turn : Nat) → (c : Call) → Except Failure c.Value

/-- The reply that carries a value or a failure. -/
def Reply.ofExcept {α : Type} : Except Failure α → Reply α
  | .ok a => .value a
  | .error f => .failed f

/-- A value is replied as it is. -/
@[simp] theorem Reply.ofExcept_ok {α : Type} (a : α) :
    Reply.ofExcept (.ok a) = .value a := rfl

/-- A failure is replied as it is. -/
@[simp] theorem Reply.ofExcept_error {α : Type} (f : Failure) :
    Reply.ofExcept (.error f : Except Failure α) = .failed f := rfl

/-- Only a value is replied as one. -/
theorem Reply.eq_ok_of_value {α : Type} {x : Except Failure α} {a : α}
    (heq : Reply.value a = Reply.ofExcept x) : x = .ok a := by
  cases x <;> cases heq
  rfl

/-- Only a failure is replied as one. -/
theorem Reply.eq_error_of_failed {α : Type} {x : Except Failure α} {f : Failure}
    (heq : Reply.failed f = Reply.ofExcept x) : x = .error f := by
  cases x <;> cases heq
  rfl

/-- A behaviour never interrupts. -/
theorem Reply.interrupted_ne_ofExcept {α : Type} {x : Except Failure α} {i : Interruption} :
    Reply.interrupted i ≠ Reply.ofExcept x := by
  cases x <;> exact nofun

/-- A reply that is no interruption carries a value or a failure. -/
theorem Reply.exists_ofExcept {α : Type} {reply : Reply α}
    (hquiet : ∀ i, reply ≠ .interrupted i) : ∃ x, reply = Reply.ofExcept x := by
  cases reply with
  | value a => exact ⟨.ok a, rfl⟩
  | failed f => exact ⟨.error f, rfl⟩
  | interrupted i => exact absurd rfl (hquiet i)

namespace Behaviour

/-- The replies of a transcript that begins after `turn` calls are those of a behaviour. -/
def Agrees (b : Behaviour) : (turn : Nat) → CallTranscript → Prop
  | _, [] => True
  | turn, x :: h => x.2 = .ofExcept (b turn x.1) ∧ b.Agrees (turn + 1) h

variable {b : Behaviour} {turn : Nat} {h h' : CallTranscript}

/-- Every behaviour agrees with a run without calls. -/
@[simp] theorem agrees_nil : b.Agrees turn [] := trivial

/-- A behaviour agrees with a first call and, one turn later, with the rest. -/
@[simp] theorem agrees_cons {x : (c : Call) × c.Answer} :
    b.Agrees turn (x :: h) ↔ x.2 = .ofExcept (b turn x.1) ∧ b.Agrees (turn + 1) h := Iff.rfl

/-- A behaviour agrees with two parts of a run, the second at the turn where it begins. -/
@[simp] theorem agrees_append :
    b.Agrees turn (h ++ h') ↔ b.Agrees turn h ∧ b.Agrees (turn + h.length) h' := by
  induction h generalizing turn with
  | nil => simp
  | cons x h ih =>
    rw [List.cons_append, agrees_cons, agrees_cons, ih, and_assoc, List.length_cons,
      Nat.add_assoc, Nat.add_comm 1]

/-- A behaviour that is looked at from one call later on. -/
theorem agrees_succ : b.Agrees (turn + 1) h ↔ Agrees (fun n => b (n + 1)) turn h := by
  induction h generalizing turn with
  | nil => simp
  | cons x h ih => rw [agrees_cons, agrees_cons, ih]

/-- Every transcript without interruptions is one of some behaviour. -/
theorem exists_agrees (hquiet : ∀ c i, (⟨c, .interrupted i⟩ : (c : Call) × c.Answer) ∉ h) :
    ∃ b : Behaviour, b.Agrees 0 h := by
  classical
  induction h with
  | nil => exact ⟨fun _ _ => .error .transaction, trivial⟩
  | cons x h ih =>
    obtain ⟨c, reply⟩ := x
    obtain ⟨later, hlater⟩ := ih fun c i hmem => hquiet c i (List.mem_cons_of_mem _ hmem)
    have hfirst : ∀ i, reply ≠ .interrupted i := by
      rintro i rfl
      exact hquiet c i List.mem_cons_self
    obtain ⟨answer, rfl⟩ := Reply.exists_ofExcept hfirst
    let first : (c' : Call) → Except Failure c'.Value :=
      fun c' => if heq : c = c' then heq ▸ answer else .error .transaction
    let b : Behaviour := fun turn c' => if turn = 0 then first c' else later (turn - 1) c'
    have hshift : (fun n => b (n + 1)) = later := by
      funext n c'
      simp [b]
    refine ⟨b, ?_, agrees_succ.mpr (hshift ▸ hlater)⟩
    simp [b, first]

/-- No transcript of a behaviour holds an interruption. -/
theorem Agrees.quiet (hagrees : b.Agrees turn h) (c : Call) (i : Interruption) :
    (⟨c, .interrupted i⟩ : (c : Call) × c.Answer) ∉ h := by
  induction h generalizing turn with
  | nil => exact List.not_mem_nil
  | cons x h ih =>
    rw [List.mem_cons, not_or]
    refine ⟨?_, ih hagrees.2⟩
    rintro rfl
    exact Reply.interrupted_ne_ofExcept hagrees.1

/-- What answers as a behaviour says, and counts the calls. -/
def answer (b : Behaviour) (turn : Nat) (c : Call) : c.Answer × Nat :=
  (.ofExcept (b turn c), turn + 1)

/-- A run against a behaviour agrees with it. -/
theorem agrees_transcript {α : Type} (d : Dialogue Call Call.Answer α) :
    b.Agrees turn (d.transcript b.answer turn) := by
  induction d generalizing turn with
  | done a => exact agrees_nil
  | ask c next ih => exact ⟨rfl, ih _⟩

/-- A run against a behaviour is not given up. -/
theorem kept_transcript {α : Type} (b : Behaviour) (d : Dialogue Call Call.Answer α) (c : Call) :
    (⟨c, .interrupted .canceled⟩ : (c : Call) × c.Answer) ∉ d.transcript b.answer 0 :=
  (agrees_transcript d).quiet c .canceled

/-- Collaborators that know every account and take every identifier for an account id. They relay
nothing and sign nothing. -/
def plain : Behaviour
  | _, .resolve identifier => .ok { accountId := identifier }
  | _, .account accountId => .ok { accountId, sequence := 1 }
  | _, .relay _ => .error .transaction
  | _, .sign _ _ => .error (.keypair .secretMissing)
  | _, .submit _ => .ok .null

end Behaviour

end Remittance
