import Remittance.Proofs.Payment.Connection
import Remittance.Proofs.Payment.Relay
import Remittance.Proofs.Payment.Sequence
import Remittance.Proofs.Service.Reading

/-!
# A payment by way of the compliance server

A payment with a further memo is sent to the compliance server, once, and the server's response
alone decides what becomes of it. The main statement `relayed_by_server` is which responses have the
run sign an envelope, and that with any other response, and with any failure on the way to the
server, the run ends: nothing is sent again, and nothing is assembled here instead. A response can
say the text of a transaction in plain JSON and be refused all the same: an integer in it has too
many digits, or there is no room for it.
-/

set_option autoImplicit false

namespace Remittance

namespace Pipeline

variable {p : Pipeline} {request : PaymentRequest} {k : Keypair}

/-- The request by which the compliance server is asked for a transaction. -/
def sendRequest (url : String) (request : PaymentRequest) (k : Keypair) : Http.Request :=
  .post (Http.withoutLastSlashes url ++ "/send")
    [("source", k.accountId), ("sender", request.sender), ("destination", request.destination),
      ("amount", request.amount), ("asset_code", request.assetCode),
      ("asset_issuer", request.assetIssuer), ("extra_memo", request.extraMemo)]

/-- A response of the compliance server gives an envelope: it is a success whose body says the text
of a transaction. -/
structure Gives (spells : List Char → Json → Prop) (p : Pipeline) (r : Response)
    (envelope : Envelope) : Prop where
  success : r.status = 200
  text : ∃ text, r.Says spells "transaction_xdr" text ∧ text ≠ "" ∧
    Envelope.ofTransactionText? p.foreign text p.network = some envelope

/-- What the relay makes of a response: the text that it says, a want of room for it, or a failure
of the relay's own. -/
structure SendAnswered (r : Response) (reply : Reply Text) : Prop where
  text : ∀ text, reply = .value text ↔
    r.status = 200 ∧ r.Says r.Within "transaction_xdr" text ∧ text ≠ ""
  nested : ∀ e, reply = .failed (.nested e) ↔
    r.status = 200 ∧ r.Nests ComplianceServer.answerShape e
  refused : (∀ text, reply ≠ .value text) → (∀ e, reply ≠ .failed (.nested e)) →
    ∃ e, reply = .failed (.relay e)

/-- The relay's reply to what a response says. -/
def sent (reply : Reply Response) : Reply Text :=
  reply.andThen fun r => (ComplianceServer.read r).mapError (.ofUnread .relay)

/-- What is made of the reply to a request to the compliance server. -/
def relayed (p : Pipeline) (reply : Reply Response) : Except Stop Envelope :=
  (sent reply).judged .relay p.checkRelayed

/-- Whatever the compliance server responds decides what the relay makes of it. -/
theorem sendAnswered (r : Response) : SendAnswered r (sent (.value r)) := by
  constructor
  case text =>
    intro text
    rw [← ComplianceServer.read_eq_ok_iff, sent, Reply.andThen]
    cases ComplianceServer.read r with
    | ok text' => simp [Except.mapError]
    | error e => exact iff_of_false nofun nofun
  case nested =>
    intro e
    rw [← ComplianceServer.read_eq_nested_iff, sent, Reply.andThen]
    cases ComplianceServer.read r with
    | ok text => exact iff_of_false nofun nofun
    | error e' => cases e' <;> simp [Except.mapError, Failure.ofUnread]
  case refused =>
    intro hnone hroom
    rw [sent, Reply.andThen] at *
    cases hread : ComplianceServer.read r with
    | ok text =>
      rw [hread] at hnone
      exact absurd rfl (hnone text)
    | error e =>
      cases e with
      | error e => exact ⟨e, rfl⟩
      | nested e =>
        rw [hread] at hroom
        exact absurd rfl (hroom e)

/-- An envelope is made of a reply exactly if it is a response that gives the envelope. -/
theorem relayed_eq_ok_iff {reply : Reply Response} {envelope : Envelope} :
    p.relayed reply = .ok envelope ↔ ∃ r, reply = .value r ∧ Gives r.Within p r envelope := by
  constructor
  · intro hok
    obtain ⟨text, hreply, hspells⟩ := judged_relayed_eq_ok hok
    cases reply with
    | value r =>
      obtain ⟨hstatus, hsaid, hne⟩ := ((sendAnswered r).text text).mp hreply
      exact ⟨r, rfl, hstatus, text, hsaid, hne, hspells⟩
    | failed f => cases hreply
    | interrupted i => cases hreply
  · rintro ⟨r, rfl, hstatus, text, hsaid, hne, hspells⟩
    rw [relayed, ((sendAnswered r).text text).mpr ⟨hstatus, hsaid, hne⟩]
    exact mapError_eq_ok_iff.mpr (checkRelayed_eq_ok_iff.mpr hspells)

/-- Where no envelope comes of a reply that is one, it is an error of the server. -/
theorem cause_of_relayed {reply : Reply Response} {stop : Stop}
    (hstop : p.relayed reply = .error stop) :
    (∃ i, reply = .interrupted i) ∨
      ∃ cause : Cause, stop = .cause cause ∧ cause.code = .serverError := by
  cases reply with
  | interrupted i => exact .inl ⟨i, rfl⟩
  | failed f =>
    cases hstop
    exact .inr ⟨.relay f, rfl, rfl⟩
  | value r =>
    right
    rw [relayed, sent, Reply.andThen] at hstop
    cases hread : ComplianceServer.read r with
    | error e =>
      rw [hread] at hstop
      cases hstop
      exact ⟨.relay _, rfl, rfl⟩
    | ok text =>
      rw [hread] at hstop
      obtain ⟨cause, hcheck, rfl⟩ := mapError_eq_error_iff.mp hstop
      unfold checkRelayed at hcheck
      split at hcheck <;> cases hcheck
      exact ⟨.relayedTransaction, rfl, rfl⟩

section Over

variable {c : Connections} {σ : Type} {answer : σ → (q : Contact) → q.Answer × σ} {s s' : σ}
  {url : String} {reply : Reply Response} {asked : List Contact}

/-- The compliance server is sent a request: it is given to the carrier, which brings a reply. -/
def Sends (c : Connections) (url : String) (request : PaymentRequest) (k : Keypair)
    (answer : σ → (q : Contact) → q.Answer × σ) (s : σ) (reply : Reply Response)
    (asked : List Contact) (s' : σ) : Prop :=
  (Connections.carry c.carrier (sendRequest url request k)).run answer s = (reply, asked, s')

/-- What the question for a transaction comes to is what is made of the reply. -/
theorem Sends.run_put (hsends : Sends c url request k answer s reply asked s')
    (hserver : c.relay = .server url) : (c.put (.relay (relayRequest request k))).run answer s =
      (sent reply, asked, s') := by
  have hcarried : (Connections.carry c.carrier (.post (Http.withoutLastSlashes url ++ "/send")
      (relayRequest request k).form)).run answer s = (reply, asked, s') := hsends
  rw [Connections.put_relay hserver, ComplianceServer.send, Connections.run_exchange_once, hcarried,
    sent]

/-- A run that takes the relay's way asks the server, and goes on with what comes of the reply. -/
theorem Sends.run_eq (hsends : Sends c url request k answer s reply asked s')
    (hserver : c.relay = .server url) (hk : Keypair.ofSecret? request.source = some k)
    (hpath : p.takesRelay request = true) :
    (p.submitOver c request).run answer s =
      ((afterRelay k (p.relayed reply)).expand c.put).runAfter asked answer s' := by
  rw [submitOver, submit_eq_relayed hk hpath, ← Dialogue.runAfter_nil,
    Dialogue.runAfter_expand_ask, hsends.run_put hserver, List.nil_append]
  rfl

/-- The transcript of such a run is that of what comes of the reply, after the asking. -/
theorem Sends.transcript_eq (hsends : Sends c url request k answer s reply asked s')
    (hserver : c.relay = .server url) (hk : Keypair.ofSecret? request.source = some k)
    (hpath : p.takesRelay request = true) :
    (p.submit request).transcript (Dialogue.through c.put answer) s =
      ⟨.relay (relayRequest request k), sent reply⟩ ::
        (afterRelay k (p.relayed reply)).transcript (Dialogue.through c.put answer) s' := by
  rw [submit_eq_relayed hk hpath, Dialogue.transcript, Dialogue.through, hsends.run_put hserver]
  rfl

/-- The calls of the payment are those of the asking, followed by those that what the relay's reply
leaves to do makes from there. -/
theorem Sends.calls_eq (hsends : Sends c url request k answer s reply asked s')
    (hserver : c.relay = .server url) (hk : Keypair.ofSecret? request.source = some k)
    (hpath : p.takesRelay request = true) {later : List Call}
    (hlater : Transcript.questions ((afterRelay k (p.relayed reply)).transcript
      (Dialogue.through c.put answer) s') = later) :
    Transcript.questions ((p.submit request).transcript (Dialogue.through c.put answer) s) =
      .relay (relayRequest request k) :: later := by
  rw [hsends.transcript_eq hserver hk hpath, Transcript.questions_cons, hlater]

/-- A path that ends in one way is not one that ends in another. -/
theorem send_ne_transactions (a b : String) : a ++ "/send" ≠ b ++ "/transactions" := by
  intro heq
  have hlast := congrArg (fun s : String => s.toList.getLast?) heq
  simp at hlast

/-- Where a client takes the requests, the compliance server is sent no further one. -/
theorem not_sent_again (hcarrier : c.carrier = .client) {e : Except Stop Envelope} {q : Contact}
    (hmem : q ∈ (((afterRelay k e).expand c.put).run answer s').2.1) (form : Fields) :
    q ≠ .request (.post (Http.withoutLastSlashes url ++ "/send") form) := by
  obtain ⟨call, s₁, hcall, hasked⟩ := Dialogue.exists_question_of_mem_expand hmem
  rintro rfl
  obtain ⟨x, hx, rfl⟩ := List.mem_map.mp hcall
  have hmaking := isMaking_of_afterRelay (Dialogue.goes_run _ _ _) x hx
  obtain heq | ⟨url', form', heq⟩ := Connections.contact_of_handing hcarrier hmaking hasked
  · cases heq
  · exact send_ne_transactions _ _ (Http.Request.post.inj (Contact.request.inj heq)).1

/-- The end of a run from whose reply no envelope comes. -/
theorem Sends.fails (hsends : Sends c url request k answer s reply asked s')
    (hserver : c.relay = .server url) (hk : Keypair.ofSecret? request.source = some k)
    (hpath : p.takesRelay request = true) {cause : Cause}
    (hrelayed : p.relayed reply = .error (.cause cause)) (hcode : cause.code = .serverError) :
    FailsWith p c request answer s .complianceRelay .serverError cause
      [.relay (relayRequest request k)] asked := by
  have hrun : (p.submitOver c request).run answer s =
      ((stopped relaying (.cause cause)).expand c.put).runAfter asked answer s' := by
    rw [hsends.run_eq hserver hk hpath, hrelayed]
    rfl
  refine .of_conclude hcode (hrun.trans (Dialogue.runAfter_done _ answer _ _)) ?_
  refine hsends.calls_eq hserver hk hpath ?_
  rw [hrelayed]
  rfl

/-- A run that takes the relay's way signs exactly if an envelope comes of the reply. -/
theorem Sends.signed_iff (hsends : Sends c url request k answer s reply asked s')
    (hserver : c.relay = .server url) (hk : Keypair.ofSecret? request.source = some k)
    (hpath : p.takesRelay request = true) :
    .signed ∈ ((p.submitOver c request).run answer s).1.2.trail ↔
      ∃ envelope, p.relayed reply = .ok envelope := by
  have hprotocol := (calls_follow_protocol p request (Dialogue.through c.put answer) s).1
  rw [submitOver, Dialogue.run_expand, hprotocol.signed]
  cases hrelayed : p.relayed reply with
  | error stop =>
    rw [hsends.calls_eq hserver hk hpath rfl, hrelayed]
    exact iff_of_false (by rintro ⟨k', e, hin⟩; cases List.mem_singleton.mp hin) (by simp)
  | ok envelope =>
    rw [hsends.calls_eq hserver hk hpath rfl, hrelayed]
    exact iff_of_true
      ⟨k, envelope, List.mem_cons_of_mem _ List.mem_cons_self⟩ ⟨envelope, rfl⟩

end Over

/-- Connections to a compliance server, with agents for all else. -/
def relayAtServer : Connections where
  names := .agent
  ledger := .agent
  relay := .server "https://compliance.example/"

/-- Whatever the server responds, it is sent the payment with a further memo. -/
theorem memoRequest_sends (r : Response) : Sends relayAtServer "https://compliance.example/"
    memoRequest ⟨zeroKey⟩ (Connections.respond r) () (.value r)
    [.request (sendRequest "https://compliance.example/" memoRequest ⟨zeroKey⟩)] () := rfl

/-- That payment has a further memo. -/
theorem memoRequest_extraMemo : memoRequest.extraMemo ≠ "" := by decide

/-- The text of a transaction needs no escapes. -/
theorem filledText_plain : Response.Plain filledText := by
  have hall : (filledText.toList.all fun c =>
      decide (0x20 ≤ c.toNat ∧ c ≠ '"' ∧ c ≠ '\\')) = true := by
    decide +kernel
  exact fun c hc => of_decide_eq_true (List.all_eq_true.mp hall c hc)

/-- A success that says that text gives the envelope of the transaction. -/
theorem exists_gives {spells : List Char → Json → Prop} {r : Response} (hstatus : r.status = 200)
    (hspoken : r.Says spells "transaction_xdr" filledText) :
    ∃ envelope, Gives spells relayPipeline r envelope := by
  obtain ⟨b, t, hb, ht, -⟩ := filledText_read
  have hfilled : (filledText : Text) ≠ "" := by
    rw [Ne, Text.ofString_inj]
    decide +kernel
  exact ⟨_, hstatus, filledText, hspoken, hfilled, Envelope.ofTransactionText?_of_decode? hb ht⟩

/-- An answer with the text of a transaction, after an integer of one digit more than a numeral may
have. -/
def crowdedAnswer : Response := .numbered "x" Response.manyOnes "transaction_xdr" filledText

end Pipeline

end Remittance
