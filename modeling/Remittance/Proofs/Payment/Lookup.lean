import Remittance.Proofs.Ledger.Key
import Remittance.Proofs.Payment.Connection
import Remittance.Proofs.Payment.Sequence
import Remittance.Proofs.Payment.Submission
import Remittance.Proofs.Service.LedgerAnswer

/-!
# The look-up of the account that receives

A payment of the native asset to an account that does not exist becomes the creation of that
account. The main statement is which answers of the ledger's server make it one: those with the
status that says so, and no others. A description of the account makes it a payment, and any other
answer ends the run, with nothing asked or signed after it; so does a description for which there is
no room, or in which an integer has too many digits. For a credit asset nothing is looked up, and no
account is created.
-/

set_option autoImplicit false

namespace Remittance

namespace Pipeline

variable {p : Pipeline} {request : PaymentRequest} {k : Keypair} {d : Destination} {t : Transfer}

/-- A run over connections comes to the choice of its operation: its source is a secret, it
assembles its transaction here, and the resolver names a destination with a valid account id. -/
structure Chooses (p : Pipeline) (c : Connections) (request : PaymentRequest) {σ : Type}
    (answer : σ → (q : Contact) → q.Answer × σ) (s : σ) (k : Keypair) (d : Destination)
    (asked : List Contact) (s' : σ) : Prop where
  source : Keypair.ofSecret? request.source = some k
  direct : p.takesRelay request = false
  resolved : (c.put (.resolve request.destination)).run answer s = (.value d, asked, s')
  accountId : isAccountId d.accountId = true

/-- A run over connections goes on with an operation, after some calls and the contacts that they
took. -/
structure GoesOnWith (p : Pipeline) (c : Connections) (request : PaymentRequest) {σ : Type}
    (answer : σ → (q : Contact) → q.Answer × σ) (s : σ) (k : Keypair) (d : Destination)
    (t : Transfer) (made : List Call) (asked : List Contact) (s' : σ) : Prop where
  /-- The run is what is left of one whose operation has been chosen. -/
  rest : (p.submitOver c request).run answer s =
    ((p.finish request k d t).expand c.put).runAfter asked answer s'
  /-- From then on, no account is asked for but the one that pays. -/
  calls : ∃ later, Transcript.questions
      ((p.submit request).transcript (Dialogue.through c.put answer) s) = made ++ later ∧
    ∀ accountId, .account accountId ∈ later → accountId = k.accountId
  /-- Whatever is signed has been assembled from the operation. -/
  signs : ∀ k' e reply, ⟨.sign k' e, reply⟩ ∈
    (p.submit request).transcript (Dialogue.through c.put answer) s →
      k' = k ∧ ∃ snapshot m, p.envelope k.accountId snapshot t m = .ok e

/-- What is left of a run once its operation is chosen asks for the account that pays alone, and
signs an envelope of that operation alone. -/
theorem calls_of_finish {h : CallTranscript} {r : Ended × Progress}
    (hgoes : (p.finish request k d t).Goes h r) :
    ∀ x ∈ h, (∀ accountId, x.1 = .account accountId → accountId = k.accountId) ∧
      ∀ k' envelope, x.1 = .sign k' envelope →
        k' = k ∧ ∃ snapshot m, p.envelope k.accountId snapshot t m = .ok envelope := by
  rw [finish_eq] at hgoes
  cases hmemo : memoVerdict request d with
  | error s =>
    rw [hmemo] at hgoes
    obtain ⟨rfl, -⟩ := Dialogue.goes_done_iff.mp hgoes
    exact List.forall_mem_nil _
  | ok m =>
    rw [hmemo] at hgoes
    obtain ⟨reply, h', rfl, hrest⟩ := Dialogue.goes_ask_iff.mp hgoes
    refine List.forall_mem_cons.mpr ⟨⟨?_, fun k' envelope heq => nomatch heq⟩, ?_⟩
    · intro accountId heq
      cases heq
      rfl
    cases hverdict : Reply.verdict (loadCause k.accountId) reply with
    | error s =>
      rw [hverdict] at hrest
      obtain ⟨rfl, -⟩ := Dialogue.goes_done_iff.mp hrest
      exact List.forall_mem_nil _
    | ok snapshot =>
      rw [hverdict] at hrest
      intro x hx
      obtain ⟨hmaking, hsigns⟩ := calls_of_handOver hrest x hx
      refine ⟨?_, ?_⟩
      · intro accountId heq
        rw [heq] at hmaking
        cases hmaking
      · intro k' envelope heq
        obtain ⟨rfl, hmade⟩ := hsigns k' envelope heq
        exact ⟨rfl, snapshot, m, mapError_eq_ok_iff.mp hmade⟩

/-- The status that says that an account does not exist makes a payment its creation. -/
theorem lookup_of_missing {accountId amount : Text} {id : String} {r : Response}
    (hstatus : r.status = 404) :
    lookup accountId amount ((Reply.value r).andThen (LedgerServer.readAccount id)) =
      .ok (.createAccount accountId amount) := by
  rw [Reply.andThen, LedgerServer.readAccount, if_pos hstatus]
  rfl

/-- A description of an account makes a payment one to that account. -/
theorem lookup_of_described {accountId amount : Text} {id : String} {r : Response} {sequence : Nat}
    (hdescribes : LedgerServer.Describes r sequence) :
    lookup accountId amount ((Reply.value r).andThen (LedgerServer.readAccount id)) =
      .ok (.payment accountId amount .native) := by
  have hread : LedgerServer.readAccount id r = .ok ⟨id, sequence⟩ :=
    LedgerServer.readAccount_eq_ok_iff.mpr ⟨sequence, hdescribes, rfl⟩
  rw [Reply.andThen, hread]
  rfl

/-- Any other response decides nothing. -/
theorem lookup_of_other {accountId amount : Text} {id : String} {r : Response}
    (hstatus : r.status ≠ 404)
    (hnone : ∀ sequence, ¬ LedgerServer.Describes r sequence) : ∃ f,
      lookup accountId amount ((Reply.value r).andThen (LedgerServer.readAccount id)) =
        .error (.cause (.destinationLookup accountId f)) := by
  cases hread : LedgerServer.readAccount id r with
  | ok snapshot =>
    obtain ⟨sequence, hdescribes, -⟩ := LedgerServer.readAccount_eq_ok_iff.mp hread
    exact absurd hdescribes (hnone sequence)
  | error f =>
    have hpresent : ¬ f.isMissingAccount = true :=
      mt (LedgerServer.isMissingAccount_of_readAccount hread).mp hstatus
    refine ⟨f, ?_⟩
    rw [Reply.andThen, hread]
    exact if_neg hpresent

section Over

variable {c : Connections} {σ : Type} {answer : σ → (q : Contact) → q.Answer × σ} {s s' : σ}
  {asked : List Contact}

/-- A run that comes to the choice of its operation goes on with that choice. -/
theorem Chooses.run_eq (hchooses : Chooses p c request answer s k d asked s') :
    (p.submitOver c request).run answer s =
      ((p.choose request k d).expand c.put).runAfter asked answer s' := by
  rw [submitOver, submit_eq_direct hchooses.source hchooses.direct, ← Dialogue.runAfter_nil,
    Dialogue.runAfter_expand_ask, hchooses.resolved, List.nil_append]
  dsimp only [Reply.judged]
  rw [checkDestination, if_pos hchooses.accountId]
  rfl

/-- The transcript of such a run is that of the choice, after the resolver's answer. -/
theorem Chooses.transcript_eq (hchooses : Chooses p c request answer s k d asked s') :
    (p.submit request).transcript (Dialogue.through c.put answer) s =
      ⟨.resolve request.destination, .value d⟩ ::
        (p.choose request k d).transcript (Dialogue.through c.put answer) s' := by
  rw [submit_eq_direct hchooses.source hchooses.direct, Dialogue.transcript, Dialogue.through,
    hchooses.resolved]
  dsimp only [Reply.judged]
  rw [checkDestination, if_pos hchooses.accountId]
  rfl

/-- A request that names no asset is for the native one. -/
theorem ofFields_of_native (hnative : request.isNative = true) :
    Asset.ofFields request.assetCode request.assetIssuer = .ok .native := by
  obtain ⟨hcode, hissuer⟩ := Bool.and_eq_true_iff.mp hnative
  rw [Asset.ofFields, hcode, hissuer]

/-- The look-up of the account that receives, whose id is one of characters: one request is given to
the carrier, which brings a reply. -/
def LooksUp (c : Connections) (url : String) (d : Destination)
    (answer : σ → (q : Contact) → q.Answer × σ) (s : σ) (reply : Reply Response)
    (look : List Contact) (s' : σ) : Prop :=
  (Connections.carry c.carrier
    (.get (LedgerServer.accountUrl url d.accountId.known) none)).run answer s = (reply, look, s')

variable {url : String} {reply : Reply Response} {look : List Contact} {s'' : σ}
  {verdict : Except Stop Transfer}

/-- The account that receives has an id of characters. -/
theorem Chooses.accountId_eq (hchooses : Chooses p c request answer s k d asked s') :
    d.accountId = d.accountId.known := by
  obtain ⟨key, hkey⟩ := Key.isAccountId_iff.mp hchooses.accountId
  rw [hkey, Text.known_ofString]

/-- What the question for the account that receives comes to is what the look-up brings. -/
theorem LooksUp.run_put (hlooks : LooksUp c url d answer s' reply look s'')
    (hledger : c.ledger = .server url) (hid : d.accountId = d.accountId.known) :
    (c.put (.account d.accountId)).run answer s' =
      (reply.andThen (LedgerServer.readAccount d.accountId.known), look, s'') := by
  rw [Connections.put_account hledger, hid, LedgerServer.account_eq_once,
    Connections.run_exchange_once, Text.known_ofString, hlooks]

/-- A run for the native asset goes on as the look-up decides. -/
theorem Chooses.native_run_eq (hchooses : Chooses p c request answer s k d asked s')
    (hnative : request.isNative = true) (hledger : c.ledger = .server url)
    (hlooks : LooksUp c url d answer s' reply look s'')
    (hverdict : lookup d.accountId request.amount
      (reply.andThen (LedgerServer.readAccount d.accountId.known)) = verdict) :
    (p.submitOver c request).run answer s =
      ((p.decided request k d verdict).expand c.put).runAfter (asked ++ look) answer s'' := by
  rw [hchooses.run_eq, choose, ofFields_of_native hnative]
  dsimp only
  rw [Dialogue.runAfter_expand_ask, hlooks.run_put hledger hchooses.accountId_eq]
  dsimp only
  rw [hverdict]

/-- The transcript of such a run for the native asset goes on as the look-up decides. -/
theorem Chooses.native_transcript_eq (hchooses : Chooses p c request answer s k d asked s')
    (hnative : request.isNative = true) (hledger : c.ledger = .server url)
    (hlooks : LooksUp c url d answer s' reply look s'')
    (hverdict : lookup d.accountId request.amount
      (reply.andThen (LedgerServer.readAccount d.accountId.known)) = verdict) :
    (p.submit request).transcript (Dialogue.through c.put answer) s =
      ⟨.resolve request.destination, .value d⟩ ::
        ⟨.account d.accountId, reply.andThen (LedgerServer.readAccount d.accountId.known)⟩ ::
          (p.decided request k d verdict).transcript (Dialogue.through c.put answer) s'' := by
  rw [hchooses.transcript_eq, choose, ofFields_of_native hnative]
  dsimp only
  rw [Dialogue.transcript, Dialogue.through, hlooks.run_put hledger hchooses.accountId_eq]
  dsimp only
  rw [hverdict]

/-- A run goes on with an operation if the rest of it is what is left once that is chosen. -/
theorem GoesOnWith.of_eq {made : CallTranscript}
    (hmade : ∀ x ∈ made, x.1.isSign = false)
    (hrun : (p.submitOver c request).run answer s =
      ((p.finish request k d t).expand c.put).runAfter asked answer s')
    (htranscript : (p.submit request).transcript (Dialogue.through c.put answer) s =
      made ++ (p.finish request k d t).transcript (Dialogue.through c.put answer) s') :
    GoesOnWith p c request answer s k d t (Transcript.questions made) asked s' := by
  have hcalls := calls_of_finish
    (Dialogue.goes_run (Dialogue.through c.put answer) s' (p.finish request k d t))
  constructor
  case rest => exact hrun
  case calls =>
    refine ⟨_, (congrArg Transcript.questions htranscript).trans
      (Transcript.questions_append _ _), ?_⟩
    intro accountId hmem
    obtain ⟨x, hx, hcall⟩ := List.mem_map.mp hmem
    exact Text.ofString_inj.mp ((hcalls x hx).1 accountId hcall)
  case signs =>
    intro k' e reply hsign
    rw [htranscript] at hsign
    rcases List.mem_append.mp hsign with hin | hin
    · cases hmade _ hin
    · exact (hcalls _ hin).2 k' e rfl

/-- A look-up that decides an operation is followed by the rest of the run with that operation. -/
theorem Chooses.goesOnWith_of_lookup (hchooses : Chooses p c request answer s k d asked s')
    (hnative : request.isNative = true) (hledger : c.ledger = .server url)
    (hlooks : LooksUp c url d answer s' reply look s'')
    (hdecides : lookup d.accountId request.amount
      (reply.andThen (LedgerServer.readAccount d.accountId.known)) = .ok t) :
    GoesOnWith p c request answer s k d t
      [.resolve request.destination, .account d.accountId] (asked ++ look) s'' := by
  have hmade : ∀ x ∈ ([⟨.resolve request.destination, .value d⟩,
      ⟨.account d.accountId, reply.andThen (LedgerServer.readAccount d.accountId.known)⟩] :
        CallTranscript), x.1.isSign = false :=
    List.forall_mem_cons.mpr ⟨rfl, List.forall_mem_singleton.mpr rfl⟩
  exact .of_eq hmade (hchooses.native_run_eq hnative hledger hlooks hdecides)
    (hchooses.native_transcript_eq hnative hledger hlooks hdecides)

/-- A run for a credit asset goes on with a payment of that asset, and nothing is looked up. -/
theorem Chooses.goesOnWith_credit (hchooses : Chooses p c request answer s k d asked s')
    {code issuer : Text}
    (hasset : Asset.ofFields request.assetCode request.assetIssuer = .ok (.credit code issuer)) :
    GoesOnWith p c request answer s k d
      (.payment d.accountId request.amount (.credit code issuer))
      [.resolve request.destination] asked s' := by
  have hmade : ∀ x ∈ ([⟨.resolve request.destination, .value d⟩] : CallTranscript),
      x.1.isSign = false := List.forall_mem_singleton.mpr rfl
  refine .of_eq hmade ?_ ?_
  · rw [hchooses.run_eq, choose, hasset]
    rfl
  · rw [hchooses.transcript_eq, choose, hasset]
    rfl

/-- A look-up that decides nothing ends the run. -/
theorem Chooses.fails_of_lookup (hchooses : Chooses p c request answer s k d asked s')
    (hnative : request.isNative = true) (hledger : c.ledger = .server url)
    (hlooks : LooksUp c url d answer s' reply look s'') {f : Failure}
    (hdecides : lookup d.accountId request.amount
      (reply.andThen (LedgerServer.readAccount d.accountId.known)) =
        .error (.cause (.destinationLookup d.accountId f))) :
    FailsWith p c request answer s .directAssembly .serverError (.destinationLookup d.accountId f)
      [.resolve request.destination, .account d.accountId] (asked ++ look) := by
  refine .of_conclude rfl ((hchooses.native_run_eq hnative hledger hlooks hdecides).trans
    (Dialogue.runAfter_done _ answer _ _)) ?_
  rw [hchooses.native_transcript_eq hnative hledger hlooks hdecides]
  rfl

/-- A run that asks for any account comes to the choice of its operation. -/
theorem exists_chooses_of_account {accountId : Text}
    (hmem : .account accountId ∈ Transcript.questions
      ((p.submit request).transcript (Dialogue.through c.put answer) s)) :
    ∃ k d asked s', Chooses p c request answer s k d asked s' := by
  obtain ⟨x, hx, hcall⟩ := List.mem_map.mp hmem
  cases hk : Keypair.ofSecret? request.source with
  | none =>
    rw [submit_of_no_source hk] at hx
    cases hx
  | some k =>
    cases hpath : p.takesRelay request with
    | true =>
      rw [submit_eq_relayed hk hpath, Dialogue.transcript] at hx
      rcases List.mem_cons.mp hx with hfirst | hlater
      · rw [hfirst] at hcall
        cases hcall
      -- What the relay made is handed over, and nothing is asked for but that.
      have hmaking := isMaking_of_afterRelay (Dialogue.goes_run _ _ _) x hlater
      rw [hcall] at hmaking
      cases hmaking
    | false =>
      rw [submit_eq_direct hk hpath, Dialogue.transcript] at hx
      rcases List.mem_cons.mp hx with hfirst | hlater
      · rw [hfirst] at hcall
        cases hcall
      cases hjudged : Reply.judged (.unresolvable request.destination)
          (checkDestination request.destination)
          (Dialogue.through c.put answer s (.resolve request.destination)).1 with
      | error stop =>
        rw [hjudged] at hlater
        cases hlater
      | ok d =>
        obtain ⟨hreply, hid⟩ := judged_destination_eq_ok hjudged
        exact ⟨k, d, _, _, hk, hpath, Prod.ext hreply rfl, hid⟩

/-- A run whose fields name no asset ends once its destination is known. -/
theorem Chooses.fails_of_no_asset (hchooses : Chooses p c request answer s k d asked s')
    {cause : Cause}
    (hasset : Asset.ofFields request.assetCode request.assetIssuer = .error cause) :
    FailsWith p c request answer s .directAssembly cause.code cause [.resolve request.destination]
      asked := by
  have hrun : (p.submitOver c request).run answer s =
      ((stopped assembling (.cause cause)).expand c.put).runAfter asked answer s' := by
    rw [hchooses.run_eq, choose, hasset]
    rfl
  refine .of_conclude rfl (hrun.trans (Dialogue.runAfter_done _ answer _ _)) ?_
  rw [hchooses.transcript_eq, choose, hasset]
  rfl

/-- A request that names an asset is for the one of its code and issuer. -/
theorem credit_of_ofFields (hcredit : request.isNative = false) {asset : Asset}
    (hasset : Asset.ofFields request.assetCode request.assetIssuer = .ok asset) :
    asset = .credit request.assetCode request.assetIssuer := by
  unfold Asset.ofFields at hasset
  split at hasset
  · split at hasset
    · exact (Except.ok.inj hasset).symm
    · cases hasset
  · rename_i hcode hissuer
    rw [PaymentRequest.isNative, hcode, hissuer] at hcredit
    cases hcredit
  · cases hasset

end Over

/-- Connections to a server for the ledger, with an agent that says what identifiers stand for. -/
def ledgerAtServer : Connections where
  names := .agent
  ledger := .server "https://ledger.example"

/-- One payment with that server, whose responses are all the same. -/
theorem zeroRequest_chooses (r : Response) : Chooses (timedPipeline 30) ledgerAtServer zeroRequest
    (Connections.respond r) () ⟨zeroKey⟩ { accountId := zeroKey.accountId }
    [.agent (.resolve zeroKey.accountId)] () :=
  ⟨zeroRequest_source, rfl, rfl, Key.isAccountId_accountId zeroKey⟩

/-- The look-up of that payment brings the response. -/
theorem zeroRequest_looksUp (r : Response) : LooksUp ledgerAtServer "https://ledger.example"
    { accountId := zeroKey.accountId } (Connections.respond r) () (.value r)
    [.request (.get (LedgerServer.accountUrl "https://ledger.example"
      (zeroKey.accountId : Text).known) none)] () := rfl

/-- The description of an account with sequence number 7, after an integer of one digit more than a
numeral may have. -/
def crowdedDescription : Response := .numbered "x" Response.manyOnes "sequence" "7"

end Pipeline

end Remittance
