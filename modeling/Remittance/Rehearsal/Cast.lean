import Remittance.Payment.Connection
import Remittance.Pool
import Remittance.Rehearsal.Script

/-!
# Rehearsals

A cast of scripted partners in the place of the world outside, and runs of the pipeline against it.
A name without a script stands for itself, an account without one does not exist, and a request that
no script is for finds no route.
-/

set_option autoImplicit false

namespace Remittance.Rehearsal

/-- Scripted partners. -/
structure Cast where
  names : Book Destination := []
  accounts : Book Snapshot := []
  submit : Script Json := []
  relay : Script Text := []
  signer : Script Signed := []
  routes : Book Response := []

namespace Cast

/-- The name of a route. -/
def routeName (method url : String) : String := method ++ " " ++ url

/-- The failure of a request without a route. -/
def noRoute (label route : String) : Failure := .foreign label .other ("no route: " ++ route)

/-- The failure of an account without a script. -/
def missing (accountId : Text) : Failure := .ledger (.accountMissing accountId)

/-- The entry for a call without a script that gives a value. -/
def always {α : Type} (a : α) : Entry α := ⟨.gives a, 0⟩

/-- The next entry of a script, or what stands for a missing one. -/
def nextOr {α : Type} (script : Script α) (other : Entry α) : Entry α × Script α :=
  script.next?.getD (other, script)

/-- The next entry under a name, or what stands for a missing one. -/
def lookupOr {α : Type} (book : Book α) (name : Text) (other : Entry α) : Entry α × Book α :=
  (book.next? name).getD (other, book)

/-- The reply of an entry, and the turns to wait for it. -/
def deliver {α : Type} (e : Entry α) : Reply α × Nat := (e.act.reply, e.pauses)

/-- The answer of a cast to a contact, with the turns to wait for it, and the cast afterwards. -/
def answer (c : Cast) : (q : Contact) → (q.Answer × Nat) × Cast
  | .agent (.resolve identifier) =>
    let (e, names) := lookupOr c.names identifier (always { accountId := identifier })
    (deliver e, { c with names })
  | .agent (.account accountId) =>
    let (e, accounts) :=
      lookupOr c.accounts accountId ⟨.fails (missing accountId), 0⟩
    (deliver e, { c with accounts })
  | .agent (.submit _) =>
    let (e, submit) := nextOr c.submit (always (.object []))
    (deliver e, { c with submit })
  | .agent (.relay _) =>
    let (e, relay) := nextOr c.relay (always "")
    (deliver e, { c with relay })
  | .agent (.sign keypair envelope) =>
    match c.signer.next? with
    | some (e, signer) => (deliver e, { c with signer })
    | none => ((Connections.signHere keypair envelope, 0), c)
  | .request r =>
    let route := routeName r.method r.url
    let (e, routes) := lookupOr c.routes route ⟨.fails (noRoute "ConnectionError" route), 0⟩
    (deliver e, { c with routes })
  | .wire w =>
    let route := routeName w.method (Http.bareUrl w.url)
    let (e, routes) := lookupOr c.routes route ⟨.fails (noRoute "ConnectError" route), 0⟩
    (deliver e, { c with routes })

/-- The answer of a cast without regard to turns. -/
def answerNow (c : Cast) (q : Contact) : q.Answer × Cast :=
  let r := c.answer q
  (r.1.1, r.2)

/-- The reply as it is for a caller who gives up where only the deadline would end the wait. -/
def givenUp {α : Type} : Reply α → Reply α
  | .interrupted .deadline => .interrupted .canceled
  | r => r

/-- The answer as it is for a caller who gives up where only the deadline would end the wait. -/
def answerGivenUp : (q : Contact) → q.Answer → q.Answer
  | .agent _, r => givenUp (α := _) r
  | .request _, r => givenUp (α := Response) r
  | .wire _, r => givenUp (α := Response) r

/-- The dialogue of a caller who gives up where only the deadline would end the wait. -/
def impatient {α : Type} (d : Outside α) : Outside α :=
  d.expand fun q => (Dialogue.once q).bind fun r => .done (answerGivenUp q r)

/-- Plays a dialogue: its result, the contacts it made, and the cast afterwards. -/
def play {α : Type} (c : Cast) (d : Outside α) : α × List Contact × Cast := d.run answerNow c

/-- The most turns that a reply is waited for. -/
def longest (c : Cast) : Nat :=
  [c.names.longest, c.accounts.longest, c.submit.longest, c.relay.longest, c.signer.longest,
    c.routes.longest].foldl max 0

/-- Plays dialogues of at most `calls` contacts together: the contacts and the result of each. -/
def playTogether {α : Type} (c : Cast) (calls : Nat) (ds : List (Outside α)) :
    List (List Contact × α) :=
  Pool.run answer (ds.length * (1 + calls * (1 + c.longest)) + 1) c ds

end Cast

end Remittance.Rehearsal
