import Remittance.Proofs.Service.Reading

/-!
# What the ledger's server comes to by its response

Every response, of any status and any body, decides what a question to the ledger's server comes to.
A body counts by the text whose octets it is and the value that this text spells, apart from any
reader. Main statement: `responses_decide`. Some responses come to neither of what is documented: a
success with a sequence number of more digits than a numeral may have, and a body for which there is
no room. Nor is an account asked for whose id is torn.
-/

set_option autoImplicit false

namespace Remittance

namespace LedgerServer

/-- What the question for an account comes to, as the response decides it. -/
structure AccountAnswered (accountId : String) (r : Response) (reply : Reply Snapshot) : Prop where
  missing : ∀ id, reply = .failed (.ledger (.accountMissing id)) ↔ r.status = 404 ∧ id = accountId
  found : ∀ snapshot, reply = .value snapshot ↔
    ∃ ds, Tells r.Within r ds ∧ Json.Limited ds.length ∧
      snapshot = ⟨accountId, Numeral.value ds⟩
  escaped : ∀ e, reply = .failed (.digits e) ↔
    ∃ ds, Tells r.Within r ds ∧ ¬ Json.Limited ds.length ∧ e = ⟨ds.length⟩
  nested : ∀ e, reply = .failed (.nested e) ↔ r.status = 200 ∧ r.Nests accountShape e
  refused : r.status ≠ 404 → (∀ ds, ¬ Tells r.Within r ds) →
    (r.status = 200 → ∀ e, ¬ r.Nests accountShape e) →
      ∃ e, reply = .failed (.ledger e) ∧ Failure.isMissingAccount (.ledger e) = false

/-- What a submission comes to, as the response decides it. -/
structure SubmitAnswered (r : Response) (reply : Reply Json) : Prop where
  returned : ∀ result, reply = .value result ↔
    (r.status = 200 ∨ r.status = 400) ∧
      ∃ members, r.Holds r.Within members ∧ result = .object members
  nested : ∀ e, reply = .failed (.nested e) ↔
    (r.status = 200 ∨ r.status = 400) ∧ r.Nests resultShape e
  refused : (∀ result, reply ≠ .value result) → (∀ e, reply ≠ .failed (.nested e)) →
    ∃ e, reply = .failed (.ledger e) ∧ Failure.isMissingAccount (.ledger e) = false

section Answers

variable {r : Response} {accountId : String} {ds : List Char}

/-- The status that says so means that there is no account. -/
theorem AccountAnswered.of_missing (h : r.status = 404) :
    AccountAnswered accountId r (.failed (.ledger (.accountMissing accountId))) := by
  have hfailed : r.status ≠ 200 := by
    rw [h]
    decide
  constructor
  case missing =>
    intro id
    constructor
    · intro heq
      cases heq
      exact ⟨h, rfl⟩
    · rintro ⟨-, rfl⟩
      rfl
  case found =>
    refine fun snapshot => ⟨nofun, ?_⟩
    rintro ⟨ds, htells, -⟩
    exact absurd htells.1 hfailed
  case escaped =>
    refine fun e => ⟨nofun, ?_⟩
    rintro ⟨ds, htells, -⟩
    exact absurd htells.1 hfailed
  case nested => exact fun e => ⟨nofun, fun hnested => absurd hnested.1 hfailed⟩
  case refused => exact fun hpresent => absurd h hpresent

/-- A success with a sequence number that is not too long gives the account. -/
theorem AccountAnswered.of_found (h : Tells r.Within r ds) (hlength : Json.Limited ds.length) :
    AccountAnswered accountId r (.value ⟨accountId, Numeral.value ds⟩) := by
  constructor
  case missing =>
    refine fun id => ⟨nofun, ?_⟩
    rintro ⟨hmissing, -⟩
    rw [h.1] at hmissing
    cases hmissing
  case found =>
    intro snapshot
    constructor
    · intro heq
      cases heq
      exact ⟨ds, h, hlength, rfl⟩
    · rintro ⟨ds', h', -, rfl⟩
      rw [h.unique h']
  case escaped =>
    refine fun e => ⟨nofun, ?_⟩
    rintro ⟨ds', h', hlong, -⟩
    exact absurd (h.unique h' ▸ hlength) hlong
  case nested => exact fun e => ⟨nofun, fun hnested => absurd hnested.2 (h.not_nests e)⟩
  case refused => exact fun _ hnone => absurd h (hnone ds)

/-- A success with a sequence number that is too long is not documented. -/
theorem AccountAnswered.of_escaped (h : Tells r.Within r ds) (hlong : ¬ Json.Limited ds.length) :
    AccountAnswered accountId r (.failed (.digits ⟨ds.length⟩)) := by
  constructor
  case missing =>
    refine fun id => ⟨nofun, ?_⟩
    rintro ⟨hmissing, -⟩
    rw [h.1] at hmissing
    cases hmissing
  case found =>
    refine fun snapshot => ⟨nofun, ?_⟩
    rintro ⟨ds', h', hlength, -⟩
    exact absurd (h.unique h' ▸ hlength) hlong
  case escaped =>
    intro e
    constructor
    · intro heq
      cases heq
      exact ⟨ds, h, hlong, rfl⟩
    · rintro ⟨ds', h', -, rfl⟩
      rw [h.unique h']
  case nested => exact fun e => ⟨nofun, fun hnested => absurd hnested.2 (h.not_nests e)⟩
  case refused => exact fun _ hnone => absurd h (hnone ds)

/-- A success for which there is no room is not documented either. -/
theorem AccountAnswered.of_nested {e : Json.Nested} (hsuccess : r.status = 200)
    (hnone : ∀ ds, ¬ Tells r.Within r ds) (hnests : r.Nests accountShape e) :
    AccountAnswered accountId r (.failed (.nested e)) := by
  constructor
  case missing =>
    refine fun id => ⟨nofun, ?_⟩
    rintro ⟨hmissing, -⟩
    rw [hsuccess] at hmissing
    cases hmissing
  case found =>
    refine fun snapshot => ⟨nofun, ?_⟩
    rintro ⟨ds, htells, -⟩
    exact absurd htells (hnone ds)
  case escaped =>
    refine fun e => ⟨nofun, ?_⟩
    rintro ⟨ds, htells, -⟩
    exact absurd htells (hnone ds)
  case nested =>
    intro e'
    constructor
    · intro heq
      cases heq
      exact ⟨hsuccess, hnests⟩
    · rintro ⟨-, hnests'⟩
      rw [hnests.unique hnests']
  case refused => exact fun _ _ hroom => absurd hnests (hroom hsuccess e)

/-- Any other response is a failure of the ledger's server. -/
theorem AccountAnswered.of_refused {f : Failure} (hpresent : r.status ≠ 404)
    (hnone : ∀ ds, ¬ Tells r.Within r ds) (hroom : r.status = 200 → ∀ e, ¬ r.Nests accountShape e)
    (hrefuses : Refuses f) : AccountAnswered accountId r (.failed f) := by
  obtain ⟨e, rfl, hother⟩ := hrefuses
  constructor
  case missing =>
    intro id
    constructor
    · intro heq
      cases heq
      cases hother
    · exact fun h => absurd h.1 hpresent
  case found =>
    refine fun snapshot => ⟨nofun, ?_⟩
    rintro ⟨ds, htells, -⟩
    exact absurd htells (hnone ds)
  case escaped =>
    refine fun e => ⟨nofun, ?_⟩
    rintro ⟨ds, htells, -⟩
    exact absurd htells (hnone ds)
  case nested => exact fun e => ⟨nofun, fun hnested => absurd hnested.2 (hroom hnested.1 e)⟩
  case refused => exact fun _ _ _ => ⟨e, rfl, hother⟩

/-- The question for an account comes to what its response decides. -/
theorem accountAnswered (accountId : String) (r : Response) :
    AccountAnswered accountId r ((Reply.value r).andThen (readAccount accountId)) := by
  have hread := accountRead accountId r
  rw [Reply.andThen]
  generalize readAccount accountId r = read at hread
  cases hread with
  | missing hmissing => exact .of_missing hmissing
  | found htells hlength => exact .of_found htells hlength
  | long htells hlong => exact .of_escaped htells hlong
  | nested hsuccess hnone hnests => exact .of_nested hsuccess hnone hnests
  | refused hpresent hnone hroom hrefuses => exact .of_refused hpresent hnone hroom hrefuses

/-- A result that is held leaves no want of room. -/
theorem not_nests_of_holds {members : Json.Members} (h : r.Holds r.Within members)
    (e : Json.Nested) : ¬ r.Nests resultShape e := by
  intro hnests
  have hmembers := members_resultShape_iff.mpr h
  rw [members_eq_ok_iff, Response.members_eq_nested_iff.mpr hnests] at hmembers
  cases hmembers

/-- A submission comes to what its response decides. -/
theorem submitAnswered (r : Response) : SubmitAnswered r ((Reply.value r).andThen readResult) := by
  cases hread : readResult r with
  | error f =>
    have hnone (result : Json) : ¬ ((r.status = 200 ∨ r.status = 400) ∧
        ∃ members, r.Holds r.Within members ∧ result = .object members) := by
      rw [← readResult_eq_ok_iff, hread]
      exact nofun
    simp only [Reply.andThen, hread]
    obtain ⟨hstatus, e, rfl, hnests⟩ | ⟨hroom, e, rfl, hother⟩ := readResult_eq_error hread
    · refine ⟨fun result => iff_of_false nofun (hnone result), fun e' => ?_, ?_⟩
      · constructor
        · intro heq
          cases heq
          exact ⟨hstatus, hnests⟩
        · rintro ⟨-, hnests'⟩
          rw [hnests.unique hnests']
      · exact fun _ hnested => absurd rfl (hnested e)
    · refine ⟨fun result => iff_of_false nofun (hnone result), fun e' => ?_, ?_⟩
      · exact iff_of_false nofun fun h => hroom h.1 e' h.2
      · exact fun _ _ => ⟨e, rfl, hother⟩
  | ok result =>
    obtain ⟨hstatus, members, hholds, rfl⟩ := readResult_eq_ok_iff.mp hread
    simp only [Reply.andThen, hread]
    refine ⟨fun result' => ?_, fun e => ?_, fun hnone => absurd rfl (hnone _)⟩
    · rw [← readResult_eq_ok_iff, hread, Reply.value.injEq, Except.ok.injEq]
    · exact iff_of_false nofun fun h => not_nests_of_holds hholds e h.2

end Answers

/-- A world in which a server responds to every request. -/
def serving (server : Http.Request → Response) : Unit → Http.Request → Reply Response × Unit :=
  fun s request => (.value (server request), s)

/-- What a question for an account comes to, and what is sent for it: nothing for an id that is
torn. -/
structure AccountAsked (server : Http.Request → Response) (url : String) (accountId : Text)
    (reply : Reply Snapshot) (sent : List Http.Request) : Prop where
  asked : ∀ id : String, accountId = id →
    sent = [.get (accountUrl url id) none] ∧
      AccountAnswered id (server (.get (accountUrl url id) none)) reply
  torn : ∀ e, accountId.string = .error e → sent = [] ∧ reply = .failed (.torn e)

/-- The server is asked once for an account, unless the id is torn, and once for a submission, and
whatever it responds decides what comes of it. -/
theorem responses_decide (server : Http.Request → Response) (url : String) (accountId : Text)
    (envelope : String) :
    let submitting := Http.Request.post (Http.withoutLastSlashes url ++ "/transactions")
      [("tx", envelope)]
    (∃ reply sent, (account url accountId).run (serving server) () = (reply, sent, ()) ∧
        AccountAsked server url accountId reply sent) ∧
      ∃ reply, (submit url envelope).run (serving server) () = (reply, [submitting], ()) ∧
        SubmitAnswered (server submitting) reply := by
  refine ⟨⟨_, _, rfl, ?_, ?_⟩, _, rfl, submitAnswered _⟩
  · rintro id rfl
    rw [account_eq_once]
    exact ⟨rfl, accountAnswered id _⟩
  · intro e htorn
    have hnothing : account url accountId = .of (.failed (.torn e)) := by
      rw [account, htorn]
    rw [hnothing]
    exact ⟨rfl, rfl⟩

/-- A success that tells a sequence number of one digit more than a numeral may have. -/
def longSequence : Response :=
  .successSaying "sequence" (String.ofList (List.replicate (Numeral.maxDigits + 1) '1'))

/-- A success that says digits as the sequence number tells it. -/
theorem tells_successSaying {ds : List Char} (hne : ds ≠ [])
    (hdigits : ∀ c ∈ ds, c.isDigit = true) :
    Tells (Response.Within (.successSaying "sequence" (String.ofList ds)))
      (.successSaying "sequence" (String.ofList ds)) ds :=
  ⟨rfl, hne, hdigits, Response.says_successSaying _ _⟩

/-- What is told within limits is told without them. -/
theorem Tells.toNotation {r : Response} {ds : List Char} (h : Tells r.Within r ds) :
    Tells Json.Notation r ds := by
  obtain ⟨hstatus, hne, hdigits, hspoken⟩ := h
  exact ⟨hstatus, hne, hdigits, hspoken.toNotation⟩

/-- An account with a whole id is asked for by one request, whose response is read. -/
theorem run_account (server : Http.Request → Response) (url accountId : String) :
    ((account url accountId).run (serving server) ()).1 =
      (Reply.value (server (.get (accountUrl url accountId) none))).andThen
        (readAccount accountId) := by
  rw [account_eq_once]
  rfl

/-- Not every response gives an account or a failure of the ledger's server: one that tells a
sequence number with too many digits, in plain JSON, gives neither. -/
theorem not_always_answered :
    (∃ ds, Tells Json.Notation longSequence ds) ∧
      ¬ ((∃ snapshot, ((account "https://ledger" "G").run (serving fun _ => longSequence) ()).1 =
          .value snapshot) ∨
        ∃ e, ((account "https://ledger" "G").run (serving fun _ => longSequence) ()).1 =
          .failed (.ledger e)) := by
  have hdigits : ∀ c ∈ List.replicate (Numeral.maxDigits + 1) '1', c.isDigit = true := by
    intro c hc
    rw [List.eq_of_mem_replicate hc]
    rfl
  have htells : Tells longSequence.Within longSequence
      (List.replicate (Numeral.maxDigits + 1) '1') :=
    tells_successSaying (List.cons_ne_nil _ _) hdigits
  have hlong : ¬ (List.replicate (Numeral.maxDigits + 1) '1').length ≤ Numeral.maxDigits := by
    rw [List.length_replicate]
    exact Nat.not_succ_le_self _
  have hread := @readAccount_of_tells longSequence _ htells "G"
  rw [if_neg hlong] at hread
  refine ⟨⟨_, htells.toNotation⟩, ?_⟩
  rw [run_account, Reply.andThen, hread]
  rintro (⟨snapshot, heq⟩ | ⟨e, heq⟩) <;> cases heq

end LedgerServer

end Remittance
