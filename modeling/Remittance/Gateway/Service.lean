import Remittance.Gateway.Settings
import Remittance.Journal.Setup
import Remittance.Json.Writer
import Remittance.Payment.Connection
import Remittance.Text.Multipart

/-!
# The gateway

The service that takes payment requests over HTTP. It has two addresses: one tells that it is alive,
the other takes a form and answers with the ledger's result or with a payment error. Whatever else
goes wrong is answered with the general server error and recorded.
-/

set_option autoImplicit false

namespace Remittance.Gateway

/-- A request to the gateway. -/
structure Incoming where
  method : String
  target : String
  contentType : Option String
  body : Octets

/-- An answer of the gateway. -/
structure Answer where
  status : Nat
  contentType : Option String
  body : String
deriving DecidableEq

/-- The media type of JSON. -/
def jsonType : String := "application/json"

/-- An answer with the text of a JSON value. -/
def Answer.ofJsonText (status : Nat) (body : String) : Answer := ⟨status, some jsonType, body⟩

/-- An answer with a JSON body, whose texts are whole. -/
def Answer.json (status : Nat) (body : Json) : Answer :=
  .ofJsonText status (Json.write .compact body).known

/-- An answer that only says what is the matter. -/
def Answer.detail (status : Nat) (text : String) : Answer :=
  .json status (.object [("detail", .text text)])

/-- The body of the answer to a payment error, which tells its code and its fixed message. -/
def errorBody (code : PaymentCode) : Json :=
  .object [("error", .object [("code", .text code.name), ("message", .text code.message)])]

/-- The answer to a payment error. -/
def Answer.failure (code : PaymentCode) : Answer := .json code.status (errorBody code)

/-- What the gateway does not foresee: something that no stage of a payment takes care of, a result
with a number that is not finite, or one with a torn text. -/
inductive Unforeseen where
  | escaped (e : Escape)
  | notFinite
  | torn (e : Text.Torn)
deriving DecidableEq

/-- The wording of something unforeseen. -/
def Unforeseen.message : Unforeseen → String
  | .escaped e => e.message
  | .notFinite => "Out of range float values are not JSON compliant"
  | .torn e => e.message

/-- What comes of a request: an answer, unless the caller went away, and the journal's records. -/
structure Served where
  answer : Option Answer
  records : List Record
  unforeseen : Option Unforeseen := none

/-- A request that is answered without a record. -/
def Served.plain (a : Answer) : Served := ⟨some a, [], none⟩

/-- The path of a request, as it is written. -/
def Incoming.path (r : Incoming) : String := Http.bareUrl r.target

/-- The record of a payment error. -/
def failureRecord (code : PaymentCode) (path : String) : Record :=
  ⟨.info, .service, code.message, [(.errorCode, code.name), (.path, path)]⟩

/-- The record of something unforeseen. -/
def unforeseenRecord (u : Unforeseen) (path : String) : Record :=
  ⟨.error, .service, "Unhandled exception", [(.path, path), (.error, u.message)]⟩

/-- The record of the start. -/
def startRecord (s : Settings) : Record :=
  ⟨.info, .service, "Bridge started", [(.ledgerUrl, s.ledgerUrl)]⟩

/-- The record that the gateway starts with; it does not start with a level of the journal that is
none. -/
def start (s : Settings) : Except Journal.Misnomer Record :=
  (Journal.thresholdNamed s.logLevel).map fun _ => startRecord s

/-- The record of the end. -/
def stopRecord : Record := ⟨.info, .service, "Bridge shutting down", []⟩

/-- What comes of a request that ran into something unforeseen. -/
def Served.ofUnforeseen (u : Unforeseen) (path : String) (records : List Record) : Served :=
  ⟨some (.failure .serverError), records ++ [unforeseenRecord u path], some u⟩

/-- What comes of a payment that ended. -/
def Served.ofEnded (path : String) (records : List Record) : Ended → Served
  | .outcome o =>
    match o.ending with
    | .done result _ =>
      if result.allFinite then
        match (Json.write .compact result).string with
        | .ok body => ⟨some (.ofJsonText 200 body), records, none⟩
        | .error e => .ofUnforeseen (.torn e) path records
      else .ofUnforeseen .notFinite path records
    | .failed e => ⟨some (.failure e.code), records ++ [failureRecord e.code path], none⟩
  | .canceled => ⟨none, records, none⟩
  | .escaped e => .ofUnforeseen (.escaped e) path records

/-- The form in the body of a request. A body that is not a form gives no fields. -/
def Incoming.form (r : Incoming) : Except Multipart.Fault Form :=
  let kind := MediaType.read (r.contentType.getD "")
  if kind.word = "multipart/form-data" then Multipart.ofParameters kind.parameters r.body
  else if kind.word = "application/x-www-form-urlencoded" then .ok (Form.decode r.body)
  else .ok []

/-- The connections that the settings describe. -/
def connections (s : Settings) : Connections where
  names := .server s.namesUrl
  ledger := .server s.ledgerUrl
  relay :=
    match s.complianceUrl with
    | some url => .server url
    | none => .absent
  carrier := .network

/-- The pipeline that the settings describe. -/
def pipeline (s : Settings) (clock : Binary64) : Pipeline where
  network := s.network
  baseFee := s.baseFee
  timeout := s.timeout
  clock
  hasRelay := (connections s).hasRelay

/-- The addresses of the gateway. -/
inductive Address where
  | health
  | payment
deriving DecidableEq

/-- The path of an address. -/
def Address.path : Address → String
  | .health => "/health"
  | .payment => "/payment"

/-- The method that an address takes. -/
def Address.method : Address → String
  | .health => "GET"
  | .payment => "POST"

/-- The address at a path, behind which a line feed may stand. -/
def Address.ofPath? (path : String) : Option Address :=
  [.health, .payment].find? fun a => path == a.path || path == a.path ++ "\n"

/-- Serves a payment over connections. -/
def payOver (p : Pipeline) (c : Connections) (r : Incoming) : Outside Served :=
  match r.form with
  | .error f => .done (.plain (.detail 400 f.message))
  | .ok form =>
    (p.submitOver c (.ofForm form)).bind fun ended =>
      .done (.ofEnded Address.payment.path ended.2.records ended.1)

/-- Serves a request over connections. A path with slashes at its end is sent on to the address
without them. -/
def serveOver (p : Pipeline) (c : Connections) (r : Incoming) : Outside Served :=
  match Address.ofPath? r.path with
  | some address =>
    if r.method ≠ address.method then .done (.plain (.detail 405 "Method Not Allowed"))
    else match address with
      | .health => .done (.plain (.json 200 (.object [("status", .text "healthy")])))
      | .payment => payOver p c r
  | none =>
    if (Address.ofPath? (Http.withoutLastSlashes r.path)).isSome then .done (.plain ⟨307, none, ""⟩)
    else .done (.plain (.detail 404 "Not Found"))

/-- Serves a request as the settings say. -/
def serve (s : Settings) (clock : Binary64) (r : Incoming) : Outside Served :=
  serveOver (pipeline s clock) (connections s) r

end Remittance.Gateway
