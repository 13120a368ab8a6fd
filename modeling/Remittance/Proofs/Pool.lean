import Remittance.Pool
import Remittance.Proofs.Interleaving

/-!
# The schedule of a pool

A pool lets its runs take turns in a queue, each turn going on until a reply has to be waited for.
That is one schedule of the moves of its runs, so what holds of every schedule holds of a pool:
where the replies go by the questions alone, a run that ends in a pool has asked and come to what it
asks and comes to alone.
-/

set_option autoImplicit false

namespace Remittance.Pool

open Interleaving

variable {Q : Type} {R : Q → Type} {α σ : Type}

/-- The answers of a partner without the turns that they take. -/
def answerNow (answer : σ → (q : Q) → (R q × Nat) × σ) (s : σ) (q : Q) : R q × σ :=
  ((answer s q).1.1, (answer s q).2)

/-- Every reply arrives. -/
def allArrive : Nat → Arrival Q R := fun _ _ _ r => r

/-- A seat in the queue of a pool is the run at its place. -/
structure IsAt (T : Table Nat Q R α σ) (seat : Seat Q R α) : Prop where
  asked : (T.task seat.place).asked = seat.asked
  ready : seat.wait = 0 → (T.task seat.place).stage = .ready seat.rest
  waiting : seat.wait ≠ 0 → ∃ q r next,
    (T.task seat.place).stage = .waiting q r next ∧ next r = seat.rest

variable {answer : σ → (q : Q) → (R q × Nat) × σ} {T : Table Nat Q R α σ}

/-- A table after moves of one run alone, which brought it to a seat. -/
structure BroughtTo (answer : σ → (q : Q) → (R q × Nat) × σ) (T : Table Nat Q R α σ) (place : Nat)
    (seat : Seat Q R α) (s : σ) (schedule : List Nat) : Prop where
  at_place : seat.place = place
  isAt : IsAt (T.play (answerNow answer) allArrive schedule) seat
  state : (T.play (answerNow answer) allArrive schedule).state = s
  others : ∀ j ≠ place, (T.play (answerNow answer) allArrive schedule).task j = T.task j

/-- A move in front of those that brought a run to its seat. -/
theorem BroughtTo.cons {place : Nat} {seat : Seat Q R α} {s : σ} {schedule : List Nat}
    (hbrought :
      BroughtTo answer (T.move (answerNow answer) allArrive place) place seat s schedule) :
    BroughtTo answer T place seat s (place :: schedule) where
  at_place := hbrought.at_place
  isAt := hbrought.isAt
  state := hbrought.state
  others j hne := (hbrought.others j hne).trans (Table.task_move_ne hne T)

variable (answer) in
/-- Going on with a run until it has to wait is a number of its moves. -/
theorem exists_moves_of_advance {place : Nat} {d : Dialogue Q R α} {asked : List Q}
    (htask : T.task place = ⟨asked, .ready d⟩) : ∃ schedule,
      BroughtTo answer T place (advance answer place asked T.state d).1
        (advance answer place asked T.state d).2 schedule := by
  induction d generalizing T asked with
  | done a =>
    refine ⟨[], rfl, ⟨congrArg Task.asked htask, fun _ => congrArg Task.stage htask, ?_⟩, rfl,
      fun _ _ => rfl⟩
    exact fun hwait => absurd rfl hwait
  | ask q next ih =>
    obtain ⟨hasked, hstate⟩ := Table.move_ask (answerNow answer) allArrive htask
    rw [advance]
    split
    · -- The reply is there at once, so that the run goes on in the same turn.
      obtain ⟨harrived, hsame⟩ := Table.move_arrive (answerNow answer) allArrive hasked
      obtain ⟨schedule, hbrought⟩ := ih _ harrived
      rw [hsame, hstate] at hbrought
      exact ⟨_, hbrought.cons.cons⟩
    · rename_i hwait
      refine ⟨[place], BroughtTo.cons ⟨rfl, ⟨congrArg Task.asked hasked, ?_, ?_⟩, hstate,
        fun _ _ => rfl⟩⟩
      · exact fun hnone => absurd hnone hwait
      · exact fun _ => ⟨q, _, next, congrArg Task.stage hasked, rfl⟩

variable (answer) in
/-- Taking a turn is a number of moves of the run in the seat. -/
theorem exists_moves_of_turn {seat : Seat Q R α} (hat : IsAt T seat) :
    ∃ schedule, BroughtTo answer T seat.place
      (advance answer seat.place seat.asked T.state seat.rest).1
      (advance answer seat.place seat.asked T.state seat.rest).2 schedule := by
  by_cases hready : seat.wait = 0
  · have htask : T.task seat.place = ⟨seat.asked, .ready seat.rest⟩ := by
      rw [← hat.asked, ← hat.ready hready]
    exact exists_moves_of_advance answer htask
  · obtain ⟨q, r, next, hstage, hrest⟩ := hat.waiting hready
    have htask : T.task seat.place = ⟨seat.asked, .waiting q r next⟩ := by
      rw [← hat.asked, ← hstage]
    obtain ⟨harrived, hsame⟩ := Table.move_arrive (answerNow answer) allArrive htask
    obtain ⟨schedule, hbrought⟩ := exists_moves_of_advance answer harrived
    rw [hsame] at hbrought
    rw [← hrest]
    exact ⟨_, hbrought.cons⟩

/-- Every seat of a queue is at its place, and no place is taken twice. -/
structure Seated (T : Table Nat Q R α σ) (queue : List (Seat Q R α)) : Prop where
  isAt : ∀ seat ∈ queue, IsAt T seat
  apart : (queue.map Seat.place).Nodup

variable {seat : Seat Q R α} {queue : List (Seat Q R α)}

/-- The first seat of a queue is at its place. -/
theorem Seated.head (hseated : Seated T (seat :: queue)) : IsAt T seat :=
  hseated.isAt seat List.mem_cons_self

/-- The place of the first seat is not taken by another one. -/
theorem Seated.place_notMem (hseated : Seated T (seat :: queue)) :
    seat.place ∉ queue.map Seat.place := (List.nodup_cons.mp hseated.apart).1

/-- The others stay in their seats while a run takes its turn. -/
theorem Seated.after (hseated : Seated T (seat :: queue)) {moved : Seat Q R α} {s : σ}
    {schedule : List Nat} (hbrought : BroughtTo answer T seat.place moved s schedule) :
    Seated (T.play (answerNow answer) allArrive schedule) queue := by
  refine ⟨?_, (List.nodup_cons.mp hseated.apart).2⟩
  intro other hother
  have hne : other.place ≠ seat.place :=
    fun heq => hseated.place_notMem (heq ▸ List.mem_map_of_mem hother)
  have hsame := hbrought.others other.place hne
  obtain ⟨hasked, hready, hwaiting⟩ := hseated.isAt other (List.mem_cons_of_mem _ hother)
  constructor
  case asked => rw [hsame, hasked]
  case ready => rw [hsame]; exact hready
  case waiting => rw [hsame]; exact hwaiting

/-- A run goes to the end of the queue. -/
theorem Seated.snoc (hseated : Seated T queue) (hat : IsAt T seat)
    (hfree : seat.place ∉ queue.map Seat.place) : Seated T (queue ++ [seat]) := by
  constructor
  case isAt =>
    intro other hother
    rcases List.mem_append.mp hother with hin | hin
    · exact hseated.isAt other hin
    · rw [List.mem_singleton.mp hin]
      exact hat
  case apart =>
    rw [List.map_append, List.nodup_append]
    refine ⟨hseated.apart, List.nodup_singleton _, ?_⟩
    intro place hplace other hother heq
    rw [List.map_singleton, List.mem_singleton] at hother
    exact hfree (hother ▸ heq ▸ hplace)

/-- A turn of waiting changes nothing. -/
theorem IsAt.wait (hat : IsAt T seat) (hwait : 1 < seat.wait) :
    IsAt T { seat with wait := seat.wait - 1 } where
  asked := hat.asked
  ready hnone := by
    have hnone : seat.wait - 1 = 0 := hnone
    omega
  waiting _ := hat.waiting (by omega)

/-- The runs that end in a pool end so under one schedule. -/
theorem exists_schedule_of_turns (answer : σ → (q : Q) → (R q × Nat) × σ) (fuel : Nat)
    (hseated : Seated T queue) : ∃ schedule, ∀ e ∈ turns answer fuel T.state queue,
      (T.play (answerNow answer) allArrive schedule).task e.1 = ⟨e.2.1, .ready (.done e.2.2)⟩ := by
  induction fuel generalizing T queue with
  | zero => exact ⟨[], List.forall_mem_nil _⟩
  | succ fuel ih =>
    cases queue with
    | nil => exact ⟨[], List.forall_mem_nil _⟩
    | cons seat queue =>
      rw [turns]
      split
      · -- Nothing moves: the seat comes to its turn again at the end of the queue.
        rename_i hwait
        have hrest : Seated T queue := ⟨fun other hother => hseated.isAt other
          (List.mem_cons_of_mem _ hother), (List.nodup_cons.mp hseated.apart).2⟩
        exact ih (hrest.snoc (hseated.head.wait hwait) hseated.place_notMem)
      · obtain ⟨schedule, hbrought⟩ := exists_moves_of_turn answer hseated.head
        have hothers := hseated.after hbrought
        dsimp only
        generalize advance answer seat.place seat.asked T.state seat.rest = moved at hbrought ⊢
        obtain ⟨moved, s⟩ := moved
        obtain ⟨hplace, hat, rfl, -⟩ := hbrought
        dsimp only at hplace hat ⊢
        split
        · -- The run has ended, and stays as it is while the others go on.
          rename_i a hwait hdone
          have hstage := hat.ready hwait
          rw [hdone] at hstage
          obtain ⟨later, hlater⟩ := ih hothers
          refine ⟨schedule ++ later, List.forall_mem_cons.mpr ⟨?_, ?_⟩⟩
          · rw [Table.play_append, Table.task_play_of_ended hstage, ← hat.asked, ← hstage]
          · intro e he
            rw [Table.play_append]
            exact hlater e he
        · have hfree : moved.place ∉ queue.map Seat.place := hplace ▸ hseated.place_notMem
          obtain ⟨later, hlater⟩ := ih (hothers.snoc hat hfree)
          refine ⟨schedule ++ later, fun e he => ?_⟩
          rw [Table.play_append]
          exact hlater e he

/-- Dialogues that are started together are seated in their order. -/
theorem seated_start {s : σ} {runs : List (Dialogue Q R α)} {f : Nat → Dialogue Q R α}
    (hruns : ∀ i d, runs[i]? = some d → f i = d) : Seated (Table.start s f) (start runs) := by
  constructor
  case isAt =>
    intro seat hseat
    obtain ⟨⟨d, i⟩, hin, rfl⟩ := List.mem_map.mp hseat
    have hd : f i = d := hruns i d (List.mem_zipIdx_iff_getElem?.mp hin)
    exact ⟨rfl, fun _ => congrArg Stage.ready hd, fun hwait => absurd rfl hwait⟩
  case apart =>
    have hplaces : (start runs).map Seat.place = List.range' 0 runs.length := by
      rw [start, List.map_map, ← List.zipIdx_map_snd 0 runs]
      rfl
    rw [hplaces]
    exact List.nodup_range'

/-- A dialogue that ends in a pool has asked what it asks alone and come to what it comes to alone,
if the replies go by the questions. -/
theorem ended_asAlone {answer : σ → (q : Q) → (R q × Nat) × σ} {reply : (q : Q) → R q}
    (hsteady : ∀ s q, (answer s q).1.1 = reply q) {fuel : Nat} {s : σ}
    {runs : List (Dialogue Q R α)} {i : Nat} {d : Dialogue Q R α} (hrun : runs[i]? = some d)
    {asked : List Q} {a : α} (hended : (i, asked, a) ∈ turns answer fuel s (start runs)) (s' : σ) :
    a = (d.run (answerNow answer) s').1 ∧ asked = (d.run (answerNow answer) s').2.1 := by
  have hseated : Seated (Table.start s fun i => runs[i]?.getD d) (start runs) :=
    seated_start fun i d' hd' => by rw [hd', Option.getD_some]
  obtain ⟨schedule, hall⟩ := exists_schedule_of_turns answer fuel hseated
  have htask := hall _ hended
  have hnow : ∀ s q, (answerNow answer s q).1 = reply q := hsteady
  have halone := Table.asAlone hnow allArrive s s' (fun i => runs[i]?.getD d) schedule i
  obtain ⟨hresult, hasked⟩ := halone.ended a (congrArg Task.stage htask)
  have harrive : ∀ n q (r : R q), allArrive i n q r = r := fun _ _ _ => rfl
  have hwhole := run_alone_of_arrives (answerNow answer) harrive s' 0 d
  rw [htask] at hasked
  simp only [hrun, Option.getD_some] at hresult hasked
  exact ⟨hresult.trans hwhole.1, hasked.trans hwhole.2⟩

end Remittance.Pool
