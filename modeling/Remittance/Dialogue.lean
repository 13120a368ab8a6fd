/-!
# Dialogues

A dialogue is a computation that asks questions and goes on with the answers. What answers is not
part of it: a dialogue is run against any answering function, and each question can be expanded
into a dialogue of other questions.
-/

set_option autoImplicit false

namespace Remittance

/-- A computation of an `α` that asks questions `q : Q`, each answered by an `R q`. -/
inductive Dialogue (Q : Type) (R : Q → Type) (α : Type) : Type where
  | done (a : α)
  | ask (q : Q) (next : R q → Dialogue Q R α)

namespace Dialogue

variable {Q : Type} {R : Q → Type} {α β : Type}

/-- The dialogue that goes on with the result of another. -/
def bind : Dialogue Q R α → (α → Dialogue Q R β) → Dialogue Q R β
  | .done a, f => f a
  | .ask q next, f => .ask q fun r => (next r).bind f

instance : Monad (Dialogue Q R) where
  pure := .done
  bind := .bind

/-- The dialogue of one question. -/
def once (q : Q) : Dialogue Q R (R q) := .ask q .done

/-- The dialogue in which each question is put as a dialogue of other questions. -/
def expand {Q' : Type} {R' : Q' → Type} (f : (q : Q) → Dialogue Q' R' (R q)) :
    Dialogue Q R α → Dialogue Q' R' α
  | .done a => .done a
  | .ask q next => (f q).bind fun r => (next r).expand f

/-- Runs a dialogue: the result, the questions asked in order, and the last state of what
answered. -/
def run {σ : Type} (answer : σ → (q : Q) → R q × σ) (s : σ) : Dialogue Q R α → α × List Q × σ
  | .done a => (a, [], s)
  | .ask q next =>
    let reply := answer s q
    let rest := (next reply.1).run answer reply.2
    (rest.1, q :: rest.2.1, rest.2.2)

/-- To give a value is a dialogue that is over. -/
@[simp] theorem pure_eq (a : α) : (pure a : Dialogue Q R α) = .done a := rfl

/-- Sequencing in the notation for monads is that of dialogues. -/
@[simp] theorem bind_eq (d : Dialogue Q R α) (f : α → Dialogue Q R β) : d >>= f = d.bind f := rfl

/-- After a dialogue that is over comes the next one, with its value. -/
@[simp] theorem done_bind (a : α) (f : α → Dialogue Q R β) : (done a).bind f = f a := rfl

/-- A question that comes first is put first. -/
@[simp] theorem ask_bind (q : Q) (next : R q → Dialogue Q R α) (f : α → Dialogue Q R β) :
    (ask q next).bind f = .ask q fun r => (next r).bind f := rfl

end Dialogue

end Remittance
