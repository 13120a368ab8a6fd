import Remittance.Proofs.Gateway.Answer

/-!
# What the client of a failed payment learns

A payment that fails is answered with the code of the failure and the fixed message of that code.
The main statement compares two payments that may differ in everything, in what was posted, in who
answered and in what went wrong: their answers are the same if and only if their codes are.
-/

set_option autoImplicit false

namespace Remittance

/-- The code of a payment that failed. A run that something escaped from counts as an error of the
server; a run that was given up has none, as nobody is there to be told. -/
def Ended.refusal? : Ended → Option PaymentCode
  | .outcome o =>
    match o.ending with
    | .done .. => none
    | .failed e => some e.code
  | .canceled => none
  | .escaped _ => some .serverError

namespace Gateway

/-- A request posts a form as a payment. -/
structure Incoming.Posts (r : Incoming) (form : Form) : Prop where
  path : Address.ofPath? r.path = some .payment
  method : r.method = "POST"
  form : r.form = .ok form

/-- A form that is posted as a payment is posted so. -/
theorem posted_posts (form : Form) : (posted form).Posts form :=
  ⟨posted_path form, rfl, posted_form form⟩

/-- The body of the answer to a payment error can be read where there is room for two objects. -/
theorem errorBody_readable (room : Nat) (code : PaymentCode) :
    (errorBody code).Readable (room + 2) := by
  have hinner : (Json.object [("code", .text code.name), ("message", .text code.message)]).Readable
      (room + 1) := by
    refine .object _ ?_ (List.forall_mem_cons.mpr
      ⟨.text _, List.forall_mem_singleton.mpr (.text _)⟩)
    simp
  exact .object _ (List.nodup_singleton _) (List.forall_mem_singleton.mpr hinner)

/-- That body has whole texts. -/
theorem errorBody_whole (code : PaymentCode) : (errorBody code).Whole := by
  simp [errorBody, Json.Whole, Json.texts, Json.memberTexts, Text.whole_ofString]

/-- Two codes with one name are one code. -/
theorem name_injective {code code' : PaymentCode} (heq : code.name = code'.name) :
    code = code' := by
  have hfound : ∀ code : PaymentCode, PaymentCode.ofName? code.name = some code := by
    intro code
    cases code <;> rfl
  exact Option.some.inj ((hfound code).symm.trans ((congrArg _ heq).trans (hfound code')))

/-- The answer to a failed payment tells its code: no other code is answered so. -/
theorem failure_injective {code code' : PaymentCode}
    (heq : Answer.failure code = Answer.failure code') : code = code' := by
  have hread : ∀ code, Response.json
      ⟨200, Octets.ofText (Answer.failure code).body, Response.hundredfold⟩ =
        .ok (errorBody code) :=
    fun code => Response.json_success (errorBody_readable 98 code) (errorBody_whole code)
  have hbody : errorBody code = errorBody code' := by
    have hboth := hread code
    rw [heq, hread code'] at hboth
    exact (Except.ok.inj hboth).symm
  simp only [errorBody, Json.object.injEq, List.cons.injEq, Prod.mk.injEq, Json.text.injEq,
    Text.ofString_inj, true_and, and_true] at hbody
  exact name_injective hbody.1

/-- The status of the answer to a payment error, by its code. -/
theorem status_eq (code : PaymentCode) :
    code.status = if code = .serverError then 500 else if code = .canceled then 504 else 400 := by
  cases code <;> rfl

/-- A payment that failed with a code is answered with that code's answer, whatever else the run
came to. -/
theorem answer_of_refusal {p : Pipeline} {c : Connections} {r : Incoming} {form : Form}
    (hposts : r.Posts form) {σ : Type} {answer : σ → (q : Contact) → q.Answer × σ} {s : σ}
    {code : PaymentCode}
    (hrefused : ((p.submitOver c (.ofForm form)).run answer s).1.1.refusal? = some code) :
    ((serveOver p c r).run answer s).1.answer = some (.failure code) := by
  rw [run_serveOver hposts.path hposts.method hposts.form]
  generalize ((p.submitOver c (.ofForm form)).run answer s).1 = ended at hrefused ⊢
  obtain ⟨ended, progress⟩ := ended
  cases ended with
  | canceled => cases hrefused
  | escaped e =>
    cases hrefused
    rfl
  | outcome o =>
    obtain ⟨trail, ending⟩ := o
    cases ending with
    | done result txHash => cases hrefused
    | failed e =>
      cases hrefused
      rfl

/-- Two payments that failed are answered alike if and only if they failed with the same code. They
may be served by different pipelines, over different connections and with different forms, and their
collaborators may have failed with whatever texts. The answer is made of the code alone. -/
theorem answers_alike_iff {p p' : Pipeline} {c c' : Connections} {r r' : Incoming}
    {form form' : Form} {σ σ' : Type} {answer : σ → (q : Contact) → q.Answer × σ}
    {answer' : σ' → (q : Contact) → q.Answer × σ'} {s : σ} {s' : σ'} {code code' : PaymentCode}
    (hposts : r.Posts form) (hposts' : r'.Posts form')
    (hrefused : ((p.submitOver c (.ofForm form)).run answer s).1.1.refusal? = some code)
    (hrefused' : ((p'.submitOver c' (.ofForm form')).run answer' s').1.1.refusal? = some code') :
    ∃ a a', ((serveOver p c r).run answer s).1.answer = some a ∧
      ((serveOver p' c' r').run answer' s').1.answer = some a' ∧ (a = a' ↔ code = code') ∧
      a.status = (if code = .serverError then 500 else if code = .canceled then 504 else 400) ∧
      a.contentType = some "application/json" ∧
      (a.body : Text) = Json.write .compact (.object [("error",
        .object [("code", .text code.name), ("message", .text code.message)])]) := by
  refine ⟨.failure code, .failure code', answer_of_refusal hposts hrefused,
    answer_of_refusal hposts' hrefused', ⟨failure_injective, congrArg Answer.failure⟩,
    status_eq code, rfl, ?_⟩
  exact ((@Json.whole_write_iff .compact _).mpr (errorBody_whole code)).eq_known.symm

/-- The payment of one unit that the ledger refuses is answered alike, whatever the ledger says. -/
theorem refused_alike : ∃ form a,
    (posted form).Posts form ∧
    (((Pipeline.timedPipeline 30).submitOver callAgents (.ofForm form)).run
      (agentAnswers (.failed (.foreign "Refused" .other "sequence 7 is taken"))) 0).1.1.refusal? =
        some .serverError ∧
    ((serveOver (Pipeline.timedPipeline 30) callAgents (posted form)).run
      (agentAnswers (.failed (.foreign "Refused" .other "sequence 7 is taken"))) 0).1.answer =
        some a ∧
    ((serveOver (Pipeline.timedPipeline 30) callAgents (posted form)).run
      (agentAnswers (.failed (.foreign "Timeout" .value "https://ledger.example"))) 0).1.answer =
        some a := by
  have hrefused : ∀ f : Failure, (((Pipeline.timedPipeline 30).submitOver callAgents
      (.ofForm zeroForm)).run (agentAnswers (.failed f)) 0).1.1.refusal? = some .serverError := by
    intro f
    obtain ⟨txHash, q, hrun⟩ := zeroForm_reaches_ledger (.failed f)
    rw [hrun]
    rfl
  obtain ⟨a, a', hanswer, hanswer', halike, -⟩ := answers_alike_iff (posted_posts zeroForm)
    (posted_posts zeroForm) (hrefused (.foreign "Refused" .other "sequence 7 is taken"))
    (hrefused (.foreign "Timeout" .value "https://ledger.example"))
  obtain rfl := halike.mpr rfl
  exact ⟨zeroForm, a, posted_posts zeroForm, hrefused _, hanswer, hanswer'⟩

end Gateway

end Remittance
