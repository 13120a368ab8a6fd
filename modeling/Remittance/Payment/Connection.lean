import Remittance.Payment.Pipeline
import Remittance.Service.ComplianceServer
import Remittance.Service.LedgerServer
import Remittance.Service.NameServer

/-!
# Connections

Who answers the calls of the pipeline: a server, over HTTP, or an agent that takes the call as it
is. Signing is done here, unless an agent signs.
-/

set_option autoImplicit false

namespace Remittance

/-- What is asked of the world outside: a call put to an agent, an HTTP request put to a client, or
a request on the wire. -/
inductive Contact where
  | agent (call : Call)
  | request (r : Http.Request)
  | wire (w : Http.Wire)

/-- What comes back from a contact. -/
def Contact.Answer : Contact → Type
  | .agent call => call.Answer
  | .request _ => Reply Response
  | .wire _ => Reply Response

/-- A dialogue with the world outside. -/
abbrev Outside := Dialogue Contact Contact.Answer

/-- Who says what an identifier stands for. -/
inductive NameSource where
  | agent
  | server (url : Option String)

/-- Who speaks for the ledger. -/
inductive LedgerSource where
  | agent
  | server (url : String)

/-- Who makes transactions for payments with a further memo, if anyone does. -/
inductive RelaySource where
  | absent
  | agent
  | server (url : String)

/-- Who takes HTTP requests to their servers: a client that is given them as they are, or the
network. -/
inductive Carrier where
  | client
  | network

/-- Who answers the calls. -/
structure Connections where
  names : NameSource
  ledger : LedgerSource
  relay : RelaySource := .absent
  signingAgent : Bool := false
  carrier : Carrier := .client

namespace Connections

/-- Whether there is a compliance relay. -/
def hasRelay (c : Connections) : Bool :=
  match c.relay with
  | .absent => false
  | _ => true

/-- A call put to an agent. -/
def ask (call : Call) : Outside call.Answer := .once (Contact.agent call)

/-- A request on its way over the network. Nothing is sent if its URL is none. -/
def transmit (r : Http.Request) : Outside (Reply Response) :=
  match r.wire with
  | .error e => .done (.failed (.ofRequest e))
  | .ok w =>
    .ask (Contact.wire w) fun (reply : Reply Response) =>
      .done (reply.andThen fun response => (w.settle response).mapError .address)

/-- A request that a carrier takes to its server. -/
def carry : Carrier → Http.Request → Outside (Reply Response)
  | .client, r => .once (Contact.request r)
  | .network, r => transmit r

/-- An exchange with a server. -/
def exchange {α : Type} (carrier : Carrier) (e : Exchange α) : Outside (Reply α) :=
  e.expand (carry carrier)

/-- The signature of a key pair under an envelope. -/
def signHere (keypair : Keypair) (envelope : Envelope) : Reply Signed :=
  match (envelope.sign keypair).2 with
  | .ok signed => .value signed
  | .error e => .failed (.signing e)

/-- What a call comes to. -/
def put (c : Connections) : (call : Call) → Outside call.Answer
  | .resolve identifier =>
    match c.names with
    | .agent => ask (.resolve identifier)
    | .server url => exchange c.carrier (NameServer.resolve url identifier)
  | .account accountId =>
    match c.ledger with
    | .agent => ask (.account accountId)
    | .server url => exchange c.carrier (LedgerServer.account url accountId)
  | .submit envelope =>
    match c.ledger with
    | .agent => ask (.submit envelope)
    | .server url => exchange c.carrier (LedgerServer.submit url envelope)
  | .relay request =>
    match c.relay with
    | .server url => exchange c.carrier (ComplianceServer.send url request)
    | _ => ask (.relay request)
  | .sign keypair envelope =>
    if c.signingAgent then ask (.sign keypair envelope)
    else .done (signHere keypair envelope)

end Connections

/-- One run of a pipeline over connections. -/
def Pipeline.submitOver (p : Pipeline) (c : Connections) (request : PaymentRequest) :
    Outside (Ended × Progress) :=
  (p.submit request).expand c.put

end Remittance
