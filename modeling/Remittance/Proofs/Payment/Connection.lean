import Remittance.Payment.Connection
import Remittance.Proofs.Expansion
import Remittance.Proofs.Payment.Protocol

/-!
# Calls over connections

What a call comes to where a server answers it: one request is given to the carrier, and the reply
is what is read from the response that the carrier brings.
-/

set_option autoImplicit false

namespace Remittance

namespace Connections

variable {σ α : Type} {c : Connections} {url : String}

/-- An exchange of one request comes to what is read from the reply that the carrier brings. -/
theorem run_exchange_once (answer : σ → (q : Contact) → q.Answer × σ) (s : σ) (carrier : Carrier)
    (r : Http.Request) (f : Response → Except Failure α) :
    (exchange carrier (.once r f)).run answer s =
      (((carry carrier r).run answer s).1.andThen f, ((carry carrier r).run answer s).2) := by
  rw [exchange, Exchange.once, ← Dialogue.runAfter_nil, Dialogue.runAfter_expand_ask]
  exact Dialogue.runAfter_done _ answer _ _

/-- An identifier is put to the server of names, if there is one. -/
theorem put_resolve {url : Option String} (hnames : c.names = .server url) (identifier : Text) :
    c.put (.resolve identifier) = exchange c.carrier (NameServer.resolve url identifier) := by
  rw [put, hnames]

/-- An account is asked for at the server of the ledger, if there is one. -/
theorem put_account (hledger : c.ledger = .server url) (accountId : Text) :
    c.put (.account accountId) = exchange c.carrier (LedgerServer.account url accountId) := by
  rw [put, hledger]

/-- A request for the relay goes to its server, if there is one. -/
theorem put_relay (hrelay : c.relay = .server url) (request : RelayRequest) :
    c.put (.relay request) = exchange c.carrier (ComplianceServer.send url request) := by
  rw [put, hrelay]

/-- An envelope goes to the server of the ledger, if there is one. -/
theorem put_submit (hledger : c.ledger = .server url) (envelope : String) :
    c.put (.submit envelope) = exchange c.carrier (LedgerServer.submit url envelope) := by
  rw [put, hledger]

/-- A call that does not make an envelope asks an agent, or hands transactions to the ledger's
server. -/
theorem contact_of_handing {call : Call} (hcarrier : c.carrier = .client)
    (hcall : call.isMaking = false) {answer : σ → (q : Contact) → q.Answer × σ} {s : σ}
    {q : Contact} (hmem : q ∈ ((c.put call).run answer s).2.1) :
    q = .agent call ∨ ∃ url form,
      q = .request (.post (Http.withoutLastSlashes url ++ "/transactions") form) := by
  cases call with
  | resolve identifier => cases hcall
  | account accountId => cases hcall
  | relay request => cases hcall
  | sign keypair envelope =>
    rw [put] at hmem
    split at hmem
    · exact .inl (List.mem_singleton.mp hmem)
    · cases hmem
  | submit envelope =>
    cases hledger : c.ledger with
    | agent =>
      rw [put, hledger] at hmem
      exact .inl (List.mem_singleton.mp hmem)
    | server url =>
      rw [put_submit hledger, LedgerServer.submit, run_exchange_once, hcarrier] at hmem
      exact .inr ⟨url, _, List.mem_singleton.mp hmem⟩

/-- A world in which every request is answered with one response. An identifier is said to be an
account id, and no other call to an agent comes to anything. -/
def respond (r : Response) : Unit → (q : Contact) → q.Answer × Unit
  | _, .agent (.resolve identifier) => (Reply.value { accountId := identifier }, ())
  | _, .agent (.account _) => (Reply.interrupted .canceled, ())
  | _, .agent (.submit _) => (Reply.interrupted .canceled, ())
  | _, .agent (.relay _) => (Reply.interrupted .canceled, ())
  | _, .agent (.sign ..) => (Reply.interrupted .canceled, ())
  | _, .request _ => (Reply.value r, ())
  | _, .wire _ => (Reply.value r, ())

end Connections

namespace Pipeline

/-- A run over connections fails on its way with a code, after some calls and the contacts that they
took: the client is told the code, and nothing is called or entered any more. -/
structure FailsWith (p : Pipeline) (c : Connections) (request : PaymentRequest) {σ : Type}
    (answer : σ → (q : Contact) → q.Answer × σ) (s : σ) (way : PaymentState) (code : PaymentCode)
    (cause : Cause) (made : List Call) (asked : List Contact) : Prop where
  ended : ((p.submitOver c request).run answer s).1 =
    (.outcome ⟨[.start, way, .failed], .failed ⟨code, cause.failure?.map Failure.message⟩⟩,
      ⟨[.start, way, .failed], [cause.record, failedRecord code way]⟩)
  contacts : ((p.submitOver c request).run answer s).2.1 = asked
  calls : Transcript.questions
    ((p.submit request).transcript (Dialogue.through c.put answer) s) = made

variable {p : Pipeline} {c : Connections} {request : PaymentRequest} {σ : Type}
  {answer : σ → (q : Contact) → q.Answer × σ} {s s' : σ} {way : PaymentState} {code : PaymentCode}
  {cause : Cause} {made : List Call} {asked : List Contact}

/-- A run that a cause has ended fails with its code. -/
theorem FailsWith.of_conclude (hcode : cause.code = code)
    (hrun : (p.submitOver c request).run answer s =
      (conclude (.error (.cause cause), Progress.stopped ⟨[.start, way], []⟩ (.cause cause)),
        asked, s'))
    (hcalls : Transcript.questions
      ((p.submit request).transcript (Dialogue.through c.put answer) s) = made) :
    FailsWith p c request answer s way code cause made asked := by
  subst hcode
  constructor
  case ended =>
    rw [hrun]
    rfl
  case contacts => rw [hrun]
  case calls => exact hcalls

end Pipeline

end Remittance
