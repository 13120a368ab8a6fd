import Remittance.Proofs.Transcript

/-!
# Expanding dialogues

How the expansion of a dialogue goes with sequence, with a further expansion and with a run. The
main statement is that an expanded dialogue is run as the dialogue itself, against a partner that
answers each question by running its expansion.
-/

set_option autoImplicit false

namespace Remittance

namespace Dialogue

variable {Q Q' Q'' : Type} {R : Q → Type} {R' : Q' → Type} {R'' : Q'' → Type} {α β γ σ : Type}

/-- A dialogue that is followed by nothing is itself. -/
theorem bind_done (d : Dialogue Q R α) : d.bind .done = d := by
  induction d with
  | done a => rfl
  | ask q next ih => exact congrArg (Dialogue.ask q) (funext ih)

/-- It does not matter how three dialogues in a row are grouped. -/
theorem bind_assoc (d : Dialogue Q R α) (f : α → Dialogue Q R β) (g : β → Dialogue Q R γ) :
    (d.bind f).bind g = d.bind fun a => (f a).bind g := by
  induction d with
  | done a => rfl
  | ask q next ih => exact congrArg (Dialogue.ask q) (funext ih)

/-- An expanded question comes first, and the rest follows with what came of it. -/
theorem expand_ask (f : (q : Q) → Dialogue Q' R' (R q)) (q : Q) (next : R q → Dialogue Q R α) :
    (ask q next).expand f = (f q).bind fun r => (next r).expand f := rfl

/-- A single question expands to its dialogue. -/
theorem expand_once (f : (q : Q) → Dialogue Q' R' (R q)) (q : Q) : (once q).expand f = f q :=
  bind_done (f q)

/-- A sequence is expanded part by part. -/
theorem expand_bind (f : (q : Q) → Dialogue Q' R' (R q)) (d : Dialogue Q R α)
    (g : α → Dialogue Q R β) : (d.bind g).expand f = (d.expand f).bind fun a => (g a).expand f := by
  induction d with
  | done a => rfl
  | ask q next ih =>
    rw [ask_bind, expand_ask, expand_ask, bind_assoc]
    exact congrArg (f q).bind (funext ih)

/-- Two expansions, one after the other, are one. -/
theorem expand_expand (f : (q : Q) → Dialogue Q' R' (R q)) (g : (q : Q') → Dialogue Q'' R'' (R' q))
    (d : Dialogue Q R α) : (d.expand f).expand g = d.expand fun q => (f q).expand g := by
  induction d with
  | done a => rfl
  | ask q next ih =>
    rw [expand_ask, expand_ask, expand_bind]
    exact congrArg ((f q).expand g).bind (funext ih)

/-- What follows an expanded dialogue matters only for the results that the dialogue can come to. -/
theorem expand_bind_congr {f : (q : Q) → Dialogue Q' R' (R q)} {d : Dialogue Q R α}
    {g g' : α → Dialogue Q' R' β} (heq : ∀ h a, d.Goes h a → g a = g' a) :
    (d.expand f).bind g = (d.expand f).bind g' := by
  induction d with
  | done a => exact heq [] a (.done a)
  | ask q next ih =>
    rw [expand_ask, bind_assoc, bind_assoc]
    exact congrArg (f q).bind (funext fun r => ih r fun h a hgoes => heq _ a (.ask hgoes))

/-- A sequence of two dialogues is run one after the other. -/
theorem run_bind (answer : σ → (q : Q) → R q × σ) (s : σ) (d : Dialogue Q R α)
    (f : α → Dialogue Q R β) : (d.bind f).run answer s =
      (((f (d.run answer s).1).run answer (d.run answer s).2.2).1,
        (d.run answer s).2.1 ++ ((f (d.run answer s).1).run answer (d.run answer s).2.2).2.1,
        ((f (d.run answer s).1).run answer (d.run answer s).2.2).2.2) := by
  induction d generalizing s with
  | done a => rfl
  | ask q next ih =>
    rw [ask_bind]
    simp only [run, ih, List.cons_append]

/-- What a run comes to before which some questions were asked. -/
def runAfter (asked : List Q) (answer : σ → (q : Q) → R q × σ) (s : σ) (d : Dialogue Q R α) :
    α × List Q × σ :=
  ((d.run answer s).1, asked ++ (d.run answer s).2.1, (d.run answer s).2.2)

/-- After no questions a run is as it is. -/
theorem runAfter_nil (answer : σ → (q : Q) → R q × σ) (s : σ) (d : Dialogue Q R α) :
    d.runAfter [] answer s = d.run answer s := rfl

/-- A dialogue that is over asks nothing more than what was asked before it. -/
theorem runAfter_done (asked : List Q) (answer : σ → (q : Q) → R q × σ) (s : σ) (a : α) :
    (done a : Dialogue Q R α).runAfter asked answer s = (a, asked, s) := by
  rw [runAfter]
  simp only [run, List.append_nil]

/-- What follows in a sequence runs after the questions of the first part. -/
theorem runAfter_bind (asked : List Q) (answer : σ → (q : Q) → R q × σ) (s : σ)
    (d : Dialogue Q R α) (f : α → Dialogue Q R β) : (d.bind f).runAfter asked answer s =
      (f (d.run answer s).1).runAfter (asked ++ (d.run answer s).2.1) answer
        (d.run answer s).2.2 := by
  simp only [runAfter, run_bind, List.append_assoc]

/-- An expanded question is put, and the run goes on with what came of it. -/
theorem runAfter_expand_ask (f : (q : Q) → Dialogue Q' R' (R q)) (asked : List Q')
    (answer : σ → (q : Q') → R' q × σ) (s : σ) (q : Q) (next : R q → Dialogue Q R α) :
    ((ask q next).expand f).runAfter asked answer s =
      ((next ((f q).run answer s).1).expand f).runAfter (asked ++ ((f q).run answer s).2.1) answer
        ((f q).run answer s).2.2 :=
  runAfter_bind asked answer s (f q) _

/-- The partner that answers a question by running its expansion. -/
def through (f : (q : Q) → Dialogue Q' R' (R q)) (answer : σ → (q : Q') → R' q × σ) (s : σ)
    (q : Q) : R q × σ :=
  (((f q).run answer s).1, ((f q).run answer s).2.2)

/-- An expanded dialogue comes to the result that the dialogue itself comes to. -/
theorem run_expand (f : (q : Q) → Dialogue Q' R' (R q)) (answer : σ → (q : Q') → R' q × σ) (s : σ)
    (d : Dialogue Q R α) :
    ((d.expand f).run answer s).1 = (d.run (through f answer) s).1 := by
  induction d generalizing s with
  | done a => rfl
  | ask q next ih =>
    rw [expand_ask, run_bind]
    exact ih _ _

/-- What is asked in the run of an expanded dialogue is asked in the expansion of one of its
questions. -/
theorem exists_question_of_mem_expand {f : (q : Q) → Dialogue Q' R' (R q)}
    {answer : σ → (q : Q') → R' q × σ} {s : σ} {d : Dialogue Q R α} {q' : Q'}
    (hmem : q' ∈ ((d.expand f).run answer s).2.1) :
    ∃ q s', q ∈ (d.transcript (through f answer) s).questions ∧ q' ∈ ((f q).run answer s').2.1 := by
  induction d generalizing s with
  | done a => cases hmem
  | ask q next ih =>
    rw [expand_ask, run_bind] at hmem
    rcases List.mem_append.mp hmem with hfirst | hlater
    · exact ⟨q, s, List.mem_cons_self, hfirst⟩
    · obtain ⟨q₁, s', hin, hasked⟩ := ih _ hlater
      exact ⟨q₁, s', List.mem_cons_of_mem _ hin, hasked⟩

end Dialogue

end Remittance
