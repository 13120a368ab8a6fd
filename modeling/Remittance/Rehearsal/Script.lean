import Remittance.Payment.Failure

/-!
# Scripts

What a partner does in a rehearsal, call by call: it gives a value, fails, gives the whole run up,
or never answers, perhaps after a few turns of others. The last entry of a script stands for all
later calls.
-/

set_option autoImplicit false

namespace Remittance.Rehearsal

/-- What a partner does when it is called. -/
inductive Act (α : Type) where
  | gives (a : α)
  | fails (f : Failure)
  | cancels
  | hangs

/-- An act after some turns of others. -/
structure Entry (α : Type) where
  act : Act α
  pauses : Nat := 0

/-- The acts of a partner, one for each call. -/
abbrev Script (α : Type) := List (Entry α)

/-- The reply of an act; only the deadline ends the wait for a partner that never answers. -/
def Act.reply {α : Type} : Act α → Reply α
  | .gives a => .value a
  | .fails f => .failed f
  | .cancels => .interrupted .canceled
  | .hangs => .interrupted .deadline

/-- The entry for the next call, and the script for the calls after it. -/
def Script.next? {α : Type} : Script α → Option (Entry α × Script α)
  | [] => none
  | [e] => some (e, [e])
  | e :: rest => some (e, rest)

/-- Scripts of partners by name. -/
abbrev Book (α : Type) := List (Text × Script α)

/-- The entry for the next call of a name, and the book for the calls after it. -/
def Book.next? {α : Type} (name : Text) : Book α → Option (Entry α × Book α)
  | [] => none
  | (n, script) :: rest =>
    if n = name then (Script.next? script).map fun (e, script) => (e, (n, script) :: rest)
    else (Book.next? name rest).map fun (e, rest) => (e, (n, script) :: rest)

/-- The most turns that a partner takes for one call. -/
def Script.longest {α : Type} (script : Script α) : Nat :=
  script.foldl (fun n e => max n e.pauses) 0

/-- The most turns that any partner of a book takes for one call. -/
def Book.longest {α : Type} (book : Book α) : Nat :=
  book.foldl (fun n entry => max n (Script.longest entry.2)) 0

end Remittance.Rehearsal
