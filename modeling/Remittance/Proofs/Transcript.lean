import Remittance.Dialogue

/-!
# Transcripts

What was said in a dialogue: every question with the reply that came back, in order. A dialogue
goes by a transcript if the transcript is one of those that it can have, whatever answers it. Every
run has such a transcript, so a statement about all transcripts of a dialogue is one about all
partners that it can be run against.
-/

set_option autoImplicit false

namespace Remittance

/-- Questions with their replies, in order. -/
abbrev Transcript (Q : Type) (R : Q → Type) : Type := List ((q : Q) × R q)

/-- The questions of a transcript. -/
def Transcript.questions {Q : Type} {R : Q → Type} (h : Transcript Q R) : List Q := h.map Sigma.fst

namespace Transcript

variable {Q : Type} {R : Q → Type}

/-- No entry asks nothing. -/
@[simp] theorem questions_nil : Transcript.questions ([] : Transcript Q R) = [] := rfl

/-- The question of the first entry is the first question. -/
@[simp] theorem questions_cons (e : (q : Q) × R q) (h : Transcript Q R) :
    Transcript.questions (e :: h) = e.1 :: h.questions := rfl

/-- The questions of two parts come one after the other. -/
@[simp] theorem questions_append (h h' : Transcript Q R) :
    Transcript.questions (h ++ h') = h.questions ++ h'.questions := List.map_append

/-- The question of an entry is one of the questions. -/
theorem mem_questions {h : Transcript Q R} {q : Q} {r : R q} (hmem : ⟨q, r⟩ ∈ h) :
    q ∈ h.questions := List.mem_map.mpr ⟨⟨q, r⟩, hmem, rfl⟩

end Transcript

namespace Dialogue

variable {Q : Type} {R : Q → Type} {α β σ : Type}

/-- The transcript of a run. -/
def transcript (answer : σ → (q : Q) → R q × σ) (s : σ) : Dialogue Q R α → Transcript Q R
  | .done _ => []
  | .ask q next =>
    ⟨q, (answer s q).1⟩ :: (next (answer s q).1).transcript answer (answer s q).2

/-- A dialogue goes by a transcript to a result. -/
inductive Goes : Dialogue Q R α → Transcript Q R → α → Prop where
  | done (a : α) : Goes (.done a) [] a
  | ask {q : Q} {next : R q → Dialogue Q R α} {r : R q} {h : Transcript Q R} {a : α}
      (rest : Goes (next r) h a) : Goes (.ask q next) (⟨q, r⟩ :: h) a

/-- The questions of a run are those of its transcript. -/
theorem questions_transcript (answer : σ → (q : Q) → R q × σ) (s : σ) (d : Dialogue Q R α) :
    (d.transcript answer s).questions = (d.run answer s).2.1 := by
  induction d generalizing s with
  | done a => rfl
  | ask q next ih =>
    simp only [transcript, run, Transcript.questions_cons]
    rw [ih]

/-- A run goes by its transcript to its result. -/
theorem goes_run (answer : σ → (q : Q) → R q × σ) (s : σ) (d : Dialogue Q R α) :
    d.Goes (d.transcript answer s) (d.run answer s).1 := by
  induction d generalizing s with
  | done a => exact .done a
  | ask q next ih => exact .ask (ih _ _)

/-- A reply in the transcript of a run is one that the partner gave to its question. -/
theorem exists_state_of_mem_transcript (answer : σ → (q : Q) → R q × σ) (s : σ)
    (d : Dialogue Q R α) {q : Q} {r : R q} (hmem : ⟨q, r⟩ ∈ d.transcript answer s) :
    ∃ s', (answer s' q).1 = r := by
  induction d generalizing s with
  | done a => simp [transcript] at hmem
  | ask q' next ih =>
    rcases List.mem_cons.mp hmem with heq | hrest
    · cases heq
      exact ⟨s, rfl⟩
    · exact ih _ _ hrest

/-- Of two partners that differ only where they are asked a question of some kind, one is asked such
a question if the other is. -/
theorem exists_first_of_mem_transcript {kind : Q → Prop} {answer answer' : σ → (q : Q) → R q × σ}
    (hagree : ∀ s q, ¬ kind q → answer s q = answer' s q) {s : σ} {d : Dialogue Q R α} {q : Q}
    {r : R q} (hmem : ⟨q, r⟩ ∈ d.transcript answer s) (hkind : kind q) :
    ∃ s' q' before after, kind q' ∧
      d.transcript answer' s = before ++ ⟨q', (answer' s' q').1⟩ :: after := by
  induction d generalizing s with
  | done a => simp [transcript] at hmem
  | ask q₀ next ih =>
    by_cases hfirst : kind q₀
    · exact ⟨s, q₀, [], _, hfirst, rfl⟩
    -- Up to the first question of the kind both partners are asked the same.
    · rcases List.mem_cons.mp hmem with heq | hrest
      · cases heq
        exact absurd hkind hfirst
      · rw [hagree s q₀ hfirst] at hrest
        obtain ⟨s', q', before, after, hq', hsplit⟩ := ih _ hrest
        refine ⟨s', q', ⟨q₀, (answer' s q₀).1⟩ :: before, after, hq', ?_⟩
        rw [transcript, hsplit]
        rfl

/-- A dialogue that is over goes without an entry. -/
theorem goes_done_iff {a b : α} {h : Transcript Q R} :
    (done a : Dialogue Q R α).Goes h b ↔ h = [] ∧ b = a := by
  constructor
  · intro hgoes
    cases hgoes
    exact ⟨rfl, rfl⟩
  · rintro ⟨rfl, rfl⟩
    exact .done b

/-- A dialogue that asks goes by an entry with its question, and then by what follows the reply. -/
theorem goes_ask_iff {q : Q} {next : R q → Dialogue Q R α} {h : Transcript Q R} {b : α} :
    (ask q next).Goes h b ↔ ∃ r h', h = ⟨q, r⟩ :: h' ∧ (next r).Goes h' b := by
  constructor
  · intro hgoes
    cases hgoes with
    | ask rest => exact ⟨_, _, rfl, rest⟩
  · rintro ⟨r, h', rfl, rest⟩
    exact .ask rest

/-- A dialogue that goes on with the result of another goes by the transcripts of both. -/
theorem goes_bind_iff {d : Dialogue Q R α} {f : α → Dialogue Q R β} {h : Transcript Q R} {b : β} :
    (d.bind f).Goes h b ↔
      ∃ h₁ h₂ a, h = h₁ ++ h₂ ∧ d.Goes h₁ a ∧ (f a).Goes h₂ b := by
  induction d generalizing h with
  | done a =>
    simp only [done_bind, goes_done_iff]
    constructor
    · intro hgoes
      exact ⟨[], h, a, rfl, ⟨rfl, rfl⟩, hgoes⟩
    · rintro ⟨h₁, h₂, a', rfl, ⟨rfl, rfl⟩, hgoes⟩
      exact hgoes
  | ask q next ih =>
    simp only [ask_bind, goes_ask_iff]
    constructor
    · rintro ⟨r, h', rfl, hrest⟩
      obtain ⟨h₁, h₂, a, rfl, hfirst, hsecond⟩ := (ih r).mp hrest
      exact ⟨⟨q, r⟩ :: h₁, h₂, a, rfl, ⟨r, h₁, rfl, hfirst⟩, hsecond⟩
    · rintro ⟨h₁, h₂, a, rfl, ⟨r, h', rfl, hfirst⟩, hsecond⟩
      exact ⟨r, h' ++ h₂, rfl, (ih r).mpr ⟨h', h₂, a, rfl, hfirst, hsecond⟩⟩

end Dialogue

end Remittance
