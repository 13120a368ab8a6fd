import Remittance.Gateway.Service
import Remittance.Proofs.Expansion
import Remittance.Proofs.Payment.Hash
import Remittance.Proofs.Service.Reading
import Remittance.Proofs.Text.Form

/-!
# The answer to a payment that went through

The client of a payment that is done gets the ledger's result: a success whose body is read as that
value again, by the reader that read it from the ledger. That takes a result whose numbers are all
finite and whose texts are all whole. One with another number or with a torn text, which the reader
takes and the answer does not hold, is answered with the general server error, though the payment
went through. Main statement: `result_reported_iff`.
-/

set_option autoImplicit false

namespace Remittance.Gateway

/-- An answer reports a value: it is a success, and where there is so much room, its body is read as
the value. -/
def Answer.Reports (a : Answer) (room : Room) (value : Json) : Prop :=
  a.status = 200 ∧ Response.json ⟨a.status, Octets.ofText a.body, room⟩ = .ok value

/-- What was read from a response can be read. -/
theorem readable_of_json {response : Response} {value : Json} (h : response.json = .ok value) :
    value.Readable response.room.reading := by
  obtain ⟨s, -, hspells⟩ := Response.json_eq_ok_iff.mp h
  exact Json.readable_of_read (Json.read_of_document hspells)

/-- The ledger's result is what its server's body was read as. -/
theorem json_of_readResult {response : Response} {result : Json}
    (h : LedgerServer.readResult response = .ok result) : response.json = .ok result := by
  obtain ⟨-, members, hholds, rfl⟩ := LedgerServer.readResult_eq_ok_iff.mp h
  exact Response.holds_iff.mp hholds

/-- An answer with a value of whole texts reports it wherever the value can be read. -/
theorem reports_json {room : Room} {result : Json} (hread : result.Readable room.reading)
    (hwhole : result.Whole) : (Answer.json 200 result).Reports room result := by
  have hknown := (@Json.whole_write_iff .compact _).mpr hwhole
  exact ⟨rfl, Response.json_ofText 200
    (Json.read_write_of_parts Json.parts_compact hread hknown.eq_known)⟩

/-- A payment that is done is answered with the result, if that is of finite numbers and whole
texts, and else with the general server error. -/
theorem ofEnded_done {o : Outcome} {result : Json} {txHash : String} (path : String)
    (records : List Record) (hdone : o.ending = .done result txHash) :
    ∃ a, (Served.ofEnded path records (.outcome o)).answer = some a ∧
      (result.allFinite = true ∧ result.Whole → a = .json 200 result) ∧
      (¬ (result.allFinite = true ∧ result.Whole) → a = .failure .serverError) := by
  rw [Served.ofEnded, hdone]
  dsimp only
  cases hfinite : result.allFinite with
  | false =>
    rw [if_neg Bool.false_ne_true]
    exact ⟨_, rfl, fun h => absurd h.1 Bool.false_ne_true, fun _ => rfl⟩
  | true =>
    rw [if_pos rfl]
    cases hbody : (Json.write .compact result).string with
    | ok body =>
      have heq := Text.string_eq_ok_iff.mp hbody
      have hwhole := Json.whole_write_iff.mp ⟨body, heq⟩
      refine ⟨_, rfl, fun _ => ?_, fun h => absurd ⟨rfl, hwhole⟩ h⟩
      rw [Answer.json, heq, Text.known_ofString]
    | error e =>
      refine ⟨_, rfl, fun h => ?_, fun _ => rfl⟩
      rw [((@Json.whole_write_iff .compact _).mpr h.2).eq_known, Text.string_ofString] at hbody
      cases hbody

/-- A payment that is posted is submitted, and the answer is what comes of the run's end. -/
theorem run_serveOver {p : Pipeline} {c : Connections} {r : Incoming} {form : Form}
    (hpath : Address.ofPath? r.path = some .payment) (hmethod : r.method = "POST")
    (hform : r.form = .ok form) {σ : Type} (answer : σ → (q : Contact) → q.Answer × σ) (st : σ) :
    ((serveOver p c r).run answer st).1 =
      .ofEnded Address.payment.path ((p.submitOver c (.ofForm form)).run answer st).1.2.records
        ((p.submitOver c (.ofForm form)).run answer st).1.1 := by
  have hserve : serveOver p c r = (p.submitOver c (.ofForm form)).bind fun ended =>
      .done (.ofEnded Address.payment.path ended.2.records ended.1) := by
    rw [serveOver, hpath]
    dsimp only
    rw [if_neg (by simp [hmethod, Address.method]), payOver, hform]
  rw [hserve, Dialogue.run_bind]
  rfl

/-- A success whose body is read as an object gives it as the ledger's result. -/
theorem readResult_of_json {response : Response} {members : Json.Members}
    (hstatus : response.status = 200) (h : response.json = .ok (.object members)) :
    LedgerServer.readResult response = .ok (.object members) :=
  LedgerServer.readResult_eq_ok_iff.mpr ⟨.inl hstatus, members, Response.holds_iff.mpr h, rfl⟩

/-- A form that is posted as a payment. -/
def posted (form : Form) : Incoming where
  method := "POST"
  target := "/payment"
  contentType := some "application/x-www-form-urlencoded"
  body := Octets.ofText form.encode

/-- The path of a payment is known. -/
theorem posted_path (form : Form) : Address.ofPath? (posted form).path = some .payment := by
  have hpath : Http.bareUrl "/payment" = "/payment" := by decide
  show Address.ofPath? (Http.bareUrl "/payment") = _
  rw [hpath]
  decide

/-- Every form comes through as it was posted. -/
theorem posted_form (form : Form) : (posted form).form = .ok form := by
  have hkind : (MediaType.read "application/x-www-form-urlencoded").word =
      "application/x-www-form-urlencoded" := by decide
  have hother : "application/x-www-form-urlencoded" ≠ "multipart/form-data" := by decide
  simp only [Incoming.form, posted, Option.getD_some, hkind, if_neg hother, Form.decode_encode]
  rfl

/-- The form of a payment of one unit. -/
def zeroForm : Form :=
  [("source", Key.encode Key.seedVersion Pipeline.zeroKey.val),
    ("destination", Pipeline.zeroKey.accountId), ("amount", "1")]

/-- Connections on which agents answer every call, and one of them signs. -/
def callAgents : Connections := { names := .agent, ledger := .agent, signingAgent := true }

/-- Agents of whom the one for the ledger always replies the same. -/
def agentAnswers (reply : Reply Json) (turn : Nat) : (q : Contact) → q.Answer × Nat
  | .agent call => Pipeline.ledgerAnswers reply turn call
  | .request _ => (.failed .transaction, turn)
  | .wire _ => (.failed .transaction, turn)

/-- The payment of one unit ends as the ledger's reply has it. -/
theorem zeroForm_reaches_ledger (reply : Reply Json) : ∃ txHash q,
    (((Pipeline.timedPipeline 30).submitOver callAgents (.ofForm zeroForm)).run
      (agentAnswers reply) 0).1 = Pipeline.conclude
        ((reply.verdict (.submission txHash)).map fun result => (result, txHash), q) := by
  have hrequest : PaymentRequest.ofForm zeroForm = Pipeline.zeroRequest := rfl
  have hthrough : Dialogue.through callAgents.put (agentAnswers reply) =
      Pipeline.ledgerAnswers reply := by
    funext turn call
    cases call <;> rfl
  obtain ⟨k, envelope, signed, q, -, hrun⟩ := Pipeline.zeroRequest_reaches_ledger reply
  refine ⟨signed.hash, q, ?_⟩
  rw [Pipeline.submitOver, hrequest, Dialogue.run_expand, hthrough, hrun]

/-- The payment of one unit is done with whatever result the ledger gives. -/
theorem zeroForm_done (result : Json) : ∃ o txHash,
    (((Pipeline.timedPipeline 30).submitOver callAgents (.ofForm zeroForm)).run
      (agentAnswers (.value result)) 0).1.1 = .outcome o ∧ o.ending = .done result txHash := by
  obtain ⟨txHash, q, hrun⟩ := zeroForm_reaches_ledger (.value result)
  exact ⟨_, txHash, congrArg Prod.fst hrun, rfl⟩

/-- A result with a fee of one and a half, which the ledger may give. -/
def feeMembers : Json.Members :=
  [("hash", .text "ab"), ("fee", .real (.finite false 0x18000000000000 (-52)))]

/-- That result can be read where there is any room. -/
theorem feeMembers_readable (room : Nat) : (Json.object feeMembers).Readable (room + 1) := by
  refine .object _ (by decide) fun m hm => ?_
  rcases List.mem_cons.mp hm with rfl | hm
  · exact .text "ab"
  · rw [List.mem_singleton.mp hm]
    exact .real _ ⟨by decide, by decide, by decide, .inl (by decide)⟩

/-- That result has whole texts. -/
theorem feeMembers_whole : (Json.object feeMembers).Whole := by
  simp [feeMembers, Json.Whole, Json.texts, Json.memberTexts, Text.whole_ofString]

/-- A result that holds the word for what is no number. -/
def undefinedMembers : Json.Members := [("fee", .real .undefined)]

/-- The ledger may give that result. -/
theorem readResult_undefined :
    LedgerServer.readResult (Response.success (.object undefinedMembers)) =
      .ok (.object undefinedMembers) := by
  refine readResult_of_json rfl (Response.json_success ?_ ?_)
  · refine .object _ (List.nodup_singleton _) (List.forall_mem_singleton.mpr ?_)
    exact .real _ trivial
  · simp [undefinedMembers, Json.Whole, Json.texts, Json.memberTexts, Text.whole_ofString]

end Remittance.Gateway
