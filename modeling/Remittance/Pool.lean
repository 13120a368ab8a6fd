import Remittance.Dialogue

/-!
# Pools of runs

Several dialogues under way at once, taking turns in a queue. A run asks until it has to wait for a
reply; it then goes to the end of the queue and comes to its turn again and again until its wait is
over.
-/

set_option autoImplicit false

namespace Remittance

/-- A dialogue under way: its place among those that were started together, the questions it has
asked, the turns it has yet to wait, and what is left of it then. -/
structure Seat (Q : Type) (R : Q → Type) (α : Type) where
  place : Nat
  asked : List Q
  wait : Nat
  rest : Dialogue Q R α

namespace Pool

variable {Q : Type} {R : Q → Type} {α σ : Type}

/-- Goes on with a run until it ends or has to wait. An answer comes with the turns to wait for
it. -/
def advance (answer : σ → (q : Q) → (R q × Nat) × σ) (place : Nat) (asked : List Q) (s : σ) :
    Dialogue Q R α → Seat Q R α × σ
  | .done a => (⟨place, asked, 0, .done a⟩, s)
  | .ask q next =>
    let reply := answer s q
    if reply.1.2 = 0 then advance answer place (asked ++ [q]) reply.2 (next reply.1.1)
    else (⟨place, asked ++ [q], reply.1.2, next reply.1.1⟩, reply.2)

/-- The runs of a queue that ended within so many turns, each with its place and its questions. -/
def turns (answer : σ → (q : Q) → (R q × Nat) × σ) :
    (fuel : Nat) → σ → List (Seat Q R α) → List (Nat × List Q × α)
  | 0, _, _ => []
  | _ + 1, _, [] => []
  | fuel + 1, s, seat :: queue =>
    if 1 < seat.wait then turns answer fuel s (queue ++ [{ seat with wait := seat.wait - 1 }])
    else
      let moved := advance answer seat.place seat.asked s seat.rest
      match moved.1.wait, moved.1.rest with
      | 0, .done a => (moved.1.place, moved.1.asked, a) :: turns answer fuel moved.2 queue
      | _, _ => turns answer fuel moved.2 (queue ++ [moved.1])

/-- The queue of dialogues that are started together. -/
def start (runs : List (Dialogue Q R α)) : List (Seat Q R α) :=
  runs.zipIdx.map fun r => ⟨r.2, [], 0, r.1⟩

/-- Runs dialogues together: the questions and the result of each, in the order of their places. -/
def run (answer : σ → (q : Q) → (R q × Nat) × σ) (fuel : Nat) (s : σ)
    (runs : List (Dialogue Q R α)) : List (List Q × α) :=
  let ended := turns answer fuel s (start runs)
  (List.range runs.length).filterMap fun i => (ended.find? fun r => r.1 == i).map Prod.snd

end Pool

end Remittance
