import Mathlib.Algebra.BigOperators.Group.Finset.Piecewise
import Mathlib.Algebra.Order.Group.Multiset
import Remittance.Dialogue

/-!
# Runs side by side

Several dialogues that are held with one partner at once. Each of them moves on its own: it asks its
next question, and then waits until the reply arrives. A schedule says whose move it is, in whatever
order. A reply may also fail to arrive, and another arrives in its place.

The main statement is about a partner whose replies depend on the questions alone. Each dialogue
then comes to what it comes to alone, whatever the schedule, with the questions that it asks alone.
It rests on two lemmas about one move: the outlook of a run, what it will have come to in the end,
stays as it is, and the moves that are left to it are one less.
-/

set_option autoImplicit false

namespace Remittance.Interleaving

variable {ι Q : Type} {R : Q → Type} {α β σ : Type}

/-- How far a run has come: it is ready to go on, or it waits for the reply to a question. -/
inductive Stage (Q : Type) (R : Q → Type) (α : Type) where
  | ready (d : Dialogue Q R α)
  | waiting (q : Q) (reply : R q) (next : R q → Dialogue Q R α)

/-- A run among others: the questions it has asked, and how far it has come. -/
structure Task (Q : Type) (R : Q → Type) (α : Type) where
  asked : List Q
  stage : Stage Q R α

/-- What arrives in place of a reply: the reply itself, or another. It may go by the question and by
the number of the reply, the first being number one. -/
abbrev Arrival (Q : Type) (R : Q → Type) : Type := Nat → (q : Q) → R q → R q

namespace Task

/-- The question that a run asks with its next move. -/
def question? (t : Task Q R α) : Option Q :=
  match t.stage with
  | .ready (.ask q _) => some q
  | _ => none

/-- The next move of a run. If it is ready, it asks its next question; if it waits, a reply
arrives. -/
def move (arrives : Arrival Q R) (reply : (q : Q) → R q) (t : Task Q R α) : Task Q R α :=
  match t.stage with
  | .ready (.done _) => t
  | .ready (.ask q next) => ⟨t.asked ++ [q], .waiting q (reply q) next⟩
  | .waiting q r next => ⟨t.asked, .ready (next (arrives t.asked.length q r))⟩

/-- What is left of a run, once the reply that it waits for has arrived. -/
def rest (arrives : Arrival Q R) (t : Task Q R α) : Dialogue Q R α :=
  match t.stage with
  | .ready d => d
  | .waiting q r next => next (arrives t.asked.length q r)

/-- A run is at its end. -/
def Ended (t : Task Q R α) (a : α) : Prop := t.stage = .ready (.done a)

end Task

/-- The partner that replies by the questions alone, and counts the replies. -/
def counting (arrives : Arrival Q R) (reply : (q : Q) → R q) (n : Nat) (q : Q) : R q × Nat :=
  (arrives (n + 1) q (reply q), n + 1)

namespace Task

variable {arrives : Arrival Q R} {reply : (q : Q) → R q} {t : Task Q R α} {a : α}

/-- What a run will have come to in the end, and the questions that it will have asked. -/
def outlook (arrives : Arrival Q R) (reply : (q : Q) → R q) (t : Task Q R α) : α × List Q :=
  let r := (t.rest arrives).run (counting arrives reply) t.asked.length
  (r.1, t.asked ++ r.2.1)

/-- The moves that are left to a run. -/
def movesLeft (arrives : Arrival Q R) (reply : (q : Q) → R q) (t : Task Q R α) : Nat :=
  let later := ((t.rest arrives).run (counting arrives reply) t.asked.length).2.1.length
  match t.stage with
  | .ready _ => 2 * later
  | .waiting .. => 2 * later + 1

/-- A move adds the question that it puts, if it puts one. -/
theorem asked_move (arrives : Arrival Q R) (reply : (q : Q) → R q) (t : Task Q R α) :
    (t.move arrives reply).asked = t.asked ++ t.question?.toList := by
  obtain ⟨asked, stage⟩ := t
  cases stage with
  | ready d => cases d <;> simp [move, question?]
  | waiting q r next => simp [move, question?]

/-- A move leaves the outlook of a run as it is. -/
theorem outlook_move (arrives : Arrival Q R) (reply : (q : Q) → R q) (t : Task Q R α) :
    (t.move arrives reply).outlook arrives reply = t.outlook arrives reply := by
  obtain ⟨asked, stage⟩ := t
  cases stage with
  | waiting q r next => rfl
  | ready d =>
    cases d with
    | done a => rfl
    | ask q next =>
      -- The question that is asked now is the first of those that were to be asked.
      simp only [outlook, move, rest, Dialogue.run, counting, List.length_append,
        List.length_singleton, List.append_assoc, List.singleton_append]

/-- After a move, there is one move less to make. -/
theorem movesLeft_move (arrives : Arrival Q R) (reply : (q : Q) → R q) (t : Task Q R α) :
    (t.move arrives reply).movesLeft arrives reply = t.movesLeft arrives reply - 1 := by
  obtain ⟨asked, stage⟩ := t
  cases stage with
  | waiting q r next => rfl
  | ready d =>
    cases d with
    | done a => rfl
    | ask q next =>
      have hlength : (asked ++ [q]).length = asked.length + 1 := List.length_append
      simp only [movesLeft, move, rest, Dialogue.run, counting, List.length_cons]
      rw [hlength]
      omega

/-- A run with no move left is at its end. -/
theorem ended_of_movesLeft (hnone : t.movesLeft arrives reply = 0) :
    t.Ended (t.outlook arrives reply).1 := by
  obtain ⟨asked, stage⟩ := t
  cases stage with
  | waiting q r next => simp [movesLeft] at hnone
  | ready d =>
    cases d with
    | done a => rfl
    | ask q next => simp [movesLeft, rest, Dialogue.run] at hnone

/-- A run that has ended has come to its outlook. -/
theorem Ended.outlook_eq (hended : t.Ended a) : t.outlook arrives reply = (a, t.asked) := by
  obtain ⟨asked, stage⟩ := t
  cases hended
  simp only [outlook, rest, Dialogue.run, List.append_nil]

/-- What was asked is the beginning of what will have been asked. -/
theorem asked_prefix (arrives : Arrival Q R) (reply : (q : Q) → R q) (t : Task Q R α) :
    t.asked <+: (t.outlook arrives reply).2 := List.prefix_append _ _

end Task

/-- Runs that are held with one partner: what the partner has become, the questions of all of them
in the order in which they were asked, and the runs. -/
structure Table (ι Q : Type) (R : Q → Type) (α σ : Type) where
  state : σ
  log : List (ι × Q)
  task : ι → Task Q R α

namespace Table

/-- The start of dialogues. -/
def start (s : σ) (runs : ι → Dialogue Q R α) : Table ι Q R α σ where
  state := s
  log := []
  task i := ⟨[], .ready (runs i)⟩

/-- The questions of one run, in the order in which the partner was asked them. -/
def questionsOf [DecidableEq ι] (T : Table ι Q R α σ) (i : ι) : List Q :=
  (T.log.filter fun e => e.1 = i).map Prod.snd

variable [DecidableEq ι] (answer : σ → (q : Q) → R q × σ) (arrives : ι → Arrival Q R)

/-- One move of one run. -/
def move (T : Table ι Q R α σ) (i : ι) : Table ι Q R α σ where
  state := match (T.task i).question? with
    | some q => (answer T.state q).2
    | none => T.state
  log := T.log ++ ((T.task i).question?.map fun q => (i, q)).toList
  task := Function.update T.task i ((T.task i).move (arrives i) fun q => (answer T.state q).1)

/-- The moves of a schedule, one after the other. -/
def play (T : Table ι Q R α σ) (schedule : List ι) : Table ι Q R α σ :=
  schedule.foldl (move answer arrives) T

variable {answer arrives} {reply : (q : Q) → R q} {T : Table ι Q R α σ}

/-- The run that moves makes its own move, on the partner's answer. -/
theorem task_move_self (T : Table ι Q R α σ) (i : ι) : (T.move answer arrives i).task i =
    (T.task i).move (arrives i) fun q => (answer T.state q).1 :=
  Function.update_self i _ T.task

/-- The other runs stay as they are. -/
theorem task_move_ne {i j : ι} (hne : j ≠ i) (T : Table ι Q R α σ) :
    (T.move answer arrives i).task j = T.task j :=
  Function.update_of_ne hne _ T.task

variable (answer arrives) in
/-- A run that is ready asks its next question. -/
theorem move_ask {i : ι} {asked : List Q} {q : Q} {next : R q → Dialogue Q R α}
    (htask : T.task i = ⟨asked, .ready (.ask q next)⟩) :
    (T.move answer arrives i).task i = ⟨asked ++ [q], .waiting q (answer T.state q).1 next⟩ ∧
      (T.move answer arrives i).state = (answer T.state q).2 := by
  constructor
  · rw [task_move_self, htask]
    rfl
  · rw [move, htask]
    rfl

variable (answer arrives) in
/-- A run that waits goes on with what arrives. -/
theorem move_arrive {i : ι} {asked : List Q} {q : Q} {r : R q} {next : R q → Dialogue Q R α}
    (htask : T.task i = ⟨asked, .waiting q r next⟩) :
    (T.move answer arrives i).task i = ⟨asked, .ready (next (arrives i asked.length q r))⟩ ∧
      (T.move answer arrives i).state = T.state := by
  constructor
  · rw [task_move_self, htask]
    rfl
  · rw [move, htask]
    rfl

/-- No move of any run changes the outlook of a run. -/
theorem outlook_play (hsteady : ∀ s q, (answer s q).1 = reply q) (T : Table ι Q R α σ)
    (schedule : List ι) (i : ι) :
    ((T.play answer arrives schedule).task i).outlook (arrives i) reply =
      (T.task i).outlook (arrives i) reply := by
  induction schedule generalizing T with
  | nil => rfl
  | cons j schedule ih =>
    refine (ih (T.move answer arrives j)).trans ?_
    by_cases hmoves : i = j
    · subst hmoves
      rw [task_move_self, funext (hsteady T.state), Task.outlook_move]
    · rw [task_move_ne hmoves]

/-- The moves of a run are made at its own turns alone, and none is made twice. -/
theorem movesLeft_play (hsteady : ∀ s q, (answer s q).1 = reply q) (T : Table ι Q R α σ)
    (schedule : List ι) (i : ι) :
    ((T.play answer arrives schedule).task i).movesLeft (arrives i) reply =
      (T.task i).movesLeft (arrives i) reply - schedule.count i := by
  induction schedule generalizing T with
  | nil => rfl
  | cons j schedule ih =>
    refine (ih (T.move answer arrives j)).trans ?_
    by_cases hmoves : i = j
    · subst hmoves
      rw [task_move_self, funext (hsteady T.state), Task.movesLeft_move, List.count_cons_self,
        Nat.sub_sub, Nat.add_comm]
    · rw [task_move_ne hmoves, List.count_cons_of_ne (Ne.symm hmoves)]

/-- A schedule is played part by part. -/
theorem play_append (T : Table ι Q R α σ) (schedule later : List ι) :
    T.play answer arrives (schedule ++ later) =
      (T.play answer arrives schedule).play answer arrives later := List.foldl_append

/-- A run that has ended stays as it is. -/
theorem task_play_of_ended {i : ι} {a : α} (hended : (T.task i).Ended a) (schedule : List ι) :
    (T.play answer arrives schedule).task i = T.task i := by
  induction schedule generalizing T with
  | nil => rfl
  | cons j schedule ih =>
    have hmove : (T.move answer arrives j).task i = T.task i := by
      by_cases hmoves : i = j
      · subst hmoves
        rw [task_move_self, Task.move, hended]
      · exact task_move_ne hmoves T
    exact (ih (by rw [hmove]; exact hended)).trans hmove

/-- What the partner was asked is what the runs asked. -/
def Kept (T : Table ι Q R α σ) : Prop := ∀ i, T.questionsOf i = (T.task i).asked

/-- In the beginning nothing was asked. -/
theorem kept_start (s : σ) (runs : ι → Dialogue Q R α) : (start s runs).Kept := fun _ => rfl

/-- A move asks the partner what it asks. -/
theorem Kept.move (hkept : T.Kept) (i : ι) : (T.move answer arrives i).Kept := by
  intro j
  by_cases hmoves : j = i
  · subst hmoves
    rw [task_move_self, Task.asked_move, ← hkept j]
    cases hasked : (T.task j).question? <;> simp [questionsOf, Table.move, hasked]
  · rw [task_move_ne hmoves, ← hkept j]
    cases hasked : (T.task i).question? <;>
      simp [questionsOf, Table.move, hasked, Ne.symm hmoves]

/-- So does a schedule. -/
theorem Kept.play (hkept : T.Kept) (schedule : List ι) : (T.play answer arrives schedule).Kept := by
  induction schedule generalizing T with
  | nil => exact hkept
  | cons i schedule ih => exact ih (hkept.move i)

/-- What the partner was asked by all runs together is what each of them asked: nothing was lost,
and nothing came twice. -/
theorem log_eq_sum [Fintype ι] (log : List (ι × Q)) (f : Q → Option β) :
    (((log.map Prod.snd).filterMap f : List β) : Multiset β) =
      ∑ i, ((((log.filter fun e => e.1 = i).map Prod.snd).filterMap f : List β) : Multiset β) := by
  induction log with
  | nil => simp
  | cons e log ih =>
    have hone : ∀ i, (((((e :: log).filter fun x => x.1 = i).map Prod.snd).filterMap f : List β) :
        Multiset β) = (if e.1 = i then ((f e.2).toList : Multiset β) else 0) +
          ((((log.filter fun x => x.1 = i).map Prod.snd).filterMap f : List β) : Multiset β) := by
      intro i
      by_cases hown : e.1 = i
      · simp [hown, List.filterMap_cons]
        cases f e.2 <;> simp
      · simp [hown]
    rw [Finset.sum_congr rfl fun i _ => hone i, Finset.sum_add_distrib, Finset.sum_ite_eq,
      if_pos (Finset.mem_univ _), ← ih, List.map_cons, List.filterMap_cons]
    cases f e.2 <;> simp

end Table

/-- The partner of a run that is alone, which counts the replies. -/
def alone (answer : σ → (q : Q) → R q × σ) (arrives : Arrival Q R) (s : σ × Nat) (q : Q) :
    R q × (σ × Nat) :=
  (arrives (s.2 + 1) q (answer s.1 q).1, ((answer s.1 q).2, s.2 + 1))

variable {answer : σ → (q : Q) → R q × σ} {reply : (q : Q) → R q}

/-- It does not matter to a run what the partner has become, if the replies go by the questions. -/
theorem run_alone (hsteady : ∀ s q, (answer s q).1 = reply q) (arrives : Arrival Q R) (s : σ)
    (n : Nat) (d : Dialogue Q R α) :
    (d.run (alone answer arrives) (s, n)).1 = (d.run (counting arrives reply) n).1 ∧
      (d.run (alone answer arrives) (s, n)).2.1 = (d.run (counting arrives reply) n).2.1 := by
  induction d generalizing s n with
  | done a => exact ⟨rfl, rfl⟩
  | ask q next ih =>
    simp only [Dialogue.run, alone, counting, hsteady]
    obtain ⟨hresult, hasked⟩ := ih (arrives (n + 1) q (reply q)) (answer s q).2 (n + 1)
    exact ⟨hresult, congrArg (List.cons q) hasked⟩

variable (answer) in
/-- A run of which every reply arrives is the run of its dialogue. -/
theorem run_alone_of_arrives {arrives : Arrival Q R} (harrives : ∀ n q r, arrives n q r = r) (s : σ)
    (n : Nat) (d : Dialogue Q R α) :
    (d.run (alone answer arrives) (s, n)).1 = (d.run answer s).1 ∧
      (d.run (alone answer arrives) (s, n)).2.1 = (d.run answer s).2.1 := by
  induction d generalizing s n with
  | done a => exact ⟨rfl, rfl⟩
  | ask q next ih =>
    simp only [Dialogue.run, alone, harrives]
    obtain ⟨hresult, hasked⟩ := ih (answer s q).1 (answer s q).2 (n + 1)
    exact ⟨hresult, congrArg (List.cons q) hasked⟩

/-- What a run among others has to do with the same run alone. -/
structure AsAlone (t : Task Q R α) (result : α) (asked : List Q) (turns : Nat) : Prop where
  /-- Its questions are the first ones of those that it asks alone. -/
  part : t.asked <+: asked
  /-- If it has ended, it has asked them all, and has come to the same result. -/
  ended : ∀ a, t.Ended a → a = result ∧ t.asked = asked
  /-- It has ended if it has had two turns for each of its questions. -/
  ends : 2 * asked.length ≤ turns → t.Ended result

/-- A dialogue among others goes as it goes alone, whatever the schedule, if the replies of the
partner go by the questions. -/
theorem Table.asAlone [DecidableEq ι] (hsteady : ∀ s q, (answer s q).1 = reply q)
    (arrives : ι → Arrival Q R) (s s' : σ) (runs : ι → Dialogue Q R α) (schedule : List ι) (i : ι) :
    AsAlone (((start s runs).play answer arrives schedule).task i)
      ((runs i).run (alone answer (arrives i)) (s', 0)).1
      ((runs i).run (alone answer (arrives i)) (s', 0)).2.1 (schedule.count i) := by
  obtain ⟨hresult, hasked⟩ := run_alone hsteady (arrives i) s' 0 (runs i)
  have hfirst : ((start s runs).task i).outlook (arrives i) reply =
      (((runs i).run (alone answer (arrives i)) (s', 0)).1,
        ((runs i).run (alone answer (arrives i)) (s', 0)).2.1) := by
    rw [hresult, hasked]
    rfl
  have houtlook := (outlook_play hsteady (start s runs) schedule i).trans hfirst
  constructor
  case part =>
    have hpart := Task.asked_prefix (arrives i) reply
      (((start s runs).play answer arrives schedule).task i)
    rw [houtlook] at hpart
    exact hpart
  case ended =>
    intro a hended
    obtain ⟨hsame, hall⟩ := Prod.mk.inj (hended.outlook_eq.symm.trans houtlook)
    exact ⟨hsame, hall⟩
  case ends =>
    intro hturns
    have hleft : (((start s runs).play answer arrives schedule).task i).movesLeft
        (arrives i) reply = 0 := by
      rw [movesLeft_play hsteady, Nat.sub_eq_zero_iff_le]
      refine le_trans (le_of_eq ?_) hturns
      rw [hasked]
      rfl
    have hended := Task.ended_of_movesLeft hleft
    rw [houtlook] at hended
    exact hended

end Remittance.Interleaving
