import Remittance.Proofs.Ledger.Requirement
import Remittance.Proofs.Payment.Sequence
import Remittance.Proofs.Payment.Submission

/-!
# What an amount comes to

A run that has gathered everything else for its transaction, all of it in order, is left to its
amount. The main statement is that an amount that is none of a payment fails the run as such and
that any other one is built and goes to the signer, with one exception: an amount with more digits
before its point than are read fails the run with an error of the server, whether it is a good one
or not.
-/

set_option autoImplicit false

namespace Remittance

namespace Failure

/-- Every code point of a part that occurs in a text is one of the text. -/
theorem mem_of_occursIn {part text : List CodePoint} (hoccurs : occursIn part text = true)
    {c : CodePoint} (hc : c ∈ part) : c ∈ text := by
  induction text with
  | nil =>
    rw [occursIn, List.isEmpty_iff] at hoccurs
    rw [hoccurs] at hc
    cases hc
  | cons d text ih =>
    rw [occursIn, Bool.or_eq_true] at hoccurs
    rcases hoccurs with hfirst | hlater
    · exact (List.isPrefixOf_iff_prefix.mp hfirst).subset hc
    · exact List.mem_cons_of_mem d (ih hlater)

/-- A message does not mention a part that has a character which it has not. -/
theorem not_mentions {message part : String} {c : Char} (hfree : c ∉ message.toList)
    (hc : c ∈ part.toList) : ¬ mentions message part = true := by
  intro hmentions
  have hmem := mem_of_occursIn hmentions (List.mem_map_of_mem hc)
  rw [Text.codes_ofString, List.mem_map_of_injective fun _ _ => CodePoint.char.inj] at hmem
  exact hfree hmem

/-- Characters that tell the known messages from the refusal of a long numeral. -/
def telltales : List Char := ['p', '"', 'A']

/-- The refusal of a long numeral has none of them, however many digits it counts. -/
theorem not_mem_tooLong (e : Numeral.TooLong) {c : Char} (hc : c ∈ telltales) :
    c ∉ e.message.toList := by
  have hnone :
      (telltales.all fun c => !(Numeral.TooLong.message ⟨0⟩).toList.contains c) = true := by
    decide +kernel
  have hsigns : (telltales.all fun c => !c.isDigit) = true := by decide
  have hfree : c ∉ (Numeral.TooLong.message ⟨0⟩).toList := by
    simpa using List.all_eq_true.mp hnone c hc
  have hdigit : c.isDigit = false := by simpa using List.all_eq_true.mp hsigns c hc
  unfold Numeral.TooLong.message Numeral.ofNat at hfree ⊢
  simp only [String.toList_append, String.toList_ofList, List.mem_append, not_or] at hfree ⊢
  refine ⟨⟨hfree.1.1, fun hcount => ?_⟩, hfree.2⟩
  exact absurd (Numeral.isDigit_of_mem_digits hcount) (by simp [hdigit])

/-- A numeral that is too long is an error of the server. -/
theorem buildCode_digits (e : Numeral.TooLong) : (Failure.digits e).buildCode = .serverError := by
  have hp : 'p' ∉ e.message.toList := not_mem_tooLong e (by decide)
  have hquote : '"' ∉ e.message.toList := not_mem_tooLong e (by decide)
  have hA : 'A' ∉ e.message.toList := not_mem_tooLong e (by decide)
  have hcode : (e.message : Text) ≠ "Asset code length is invalid" := by
    intro heq
    rw [Text.ofString_inj.mp heq] at hA
    exact hA (by simp)
  have hamount := @not_mentions _ "cannot parse amount" _ hp (by simp)
  have hargument := @not_mentions _ "argument \"amount\"" _ hquote (by simp)
  have hbalance := @not_mentions _ "argument \"starting_balance\"" _ hquote (by simp)
  show codeOfMessage true e.message = _
  rw [codeOfMessage, if_neg hcode, if_neg hamount, if_neg (by simp [hargument, hbalance])]

end Failure

namespace Pipeline

variable {p : Pipeline} {request : PaymentRequest} {k : Keypair} {d : Destination}
  {look h : CallTranscript} {t : Transfer} {m : Memo} {snapshot : Snapshot}
  {b : Option TimeBounds} {r : Ended × Progress}

/-- The operation that was chosen moves the amount of the request. -/
theorem Chosen.amount_eq (hchosen : Chosen request d look t) : t.amount = request.amount := by
  obtain ⟨asset, -, hchoice⟩ := hchosen.choice
  cases hchoice <;> rfl

/-- The parts of which a run builds its transaction. -/
def parts (p : Pipeline) (k : Keypair) (snapshot : Snapshot) (t : Transfer) (m : Memo)
    (b : Option TimeBounds) : Parts :=
  ⟨p.network, k.accountId, snapshot, t, m, p.baseFee, b⟩

/-- A run has come to the building of its transaction: its calls so far have given all parts. -/
structure Poised (p : Pipeline) (request : PaymentRequest) (h : CallTranscript) (k : Keypair)
    (d : Destination) (look : CallTranscript) (t : Transfer) (m : Memo) (snapshot : Snapshot)
    (b : Option TimeBounds) : Prop where
  source : Keypair.ofSecret? request.source = some k
  direct : p.takesRelay request = false
  calls : ∃ later, h = ⟨.resolve request.destination, .value d⟩ ::
    (look ++ ⟨.account k.accountId, .value snapshot⟩ :: later)
  chosen : Chosen request d look t
  memo : memoVerdict request d = .ok m
  bounds : p.bounds = .ok b

/-- A choice of the operation goes on with the operation that was chosen. -/
theorem goes_choose {later : CallTranscript} (hchosen : Chosen request d look t)
    (hgoes : (p.choose request k d).Goes (look ++ later) r) :
    (p.finish request k d t).Goes later r := by
  obtain ⟨asset, hasset, hchoice⟩ := hchosen.choice
  unfold choose at hgoes
  rw [hasset] at hgoes
  cases hchoice with
  | credit code issuer => exact hgoes
  | present snapshot =>
    obtain ⟨reply, h', heq, hrest⟩ := Dialogue.goes_ask_iff.mp hgoes
    cases heq
    exact hrest
  | missing f hmissing =>
    obtain ⟨reply, h', heq, hrest⟩ := Dialogue.goes_ask_iff.mp hgoes
    cases heq
    rw [lookup, if_pos hmissing] at hrest
    exact hrest

/-- A run that has come to the building of its transaction hands over what it builds. -/
theorem Poised.goes_handOver (hpoised : Poised p request h k d look t m snapshot b)
    (hgoes : (p.submit request).Goes h r) :
    let e := (p.envelope k.accountId snapshot t m).mapError fun f => Stop.cause (.build f)
    ∃ before later, h = before ++ later ∧
      (handOver k (e, (assembling.chosen t).after e)).Goes later r := by
  obtain ⟨later, rfl⟩ := hpoised.calls
  rw [submit_eq_direct hpoised.source hpoised.direct] at hgoes
  obtain ⟨reply, h', heq, hrest⟩ := Dialogue.goes_ask_iff.mp hgoes
  cases heq
  rw [judged_destination_of_isAccountId hpoised.chosen.accountId] at hrest
  have hleft := goes_choose hpoised.chosen hrest
  rw [finish_eq, hpoised.memo] at hleft
  obtain ⟨reply, h', heq, hhand⟩ := Dialogue.goes_ask_iff.mp hleft
  cases heq
  exact ⟨⟨.resolve request.destination, .value d⟩ :: (look ++ [⟨.account k.accountId,
    .value snapshot⟩]), later, by simp, hhand⟩

/-- What is built of its parts is what the run makes. -/
theorem Poised.envelope_eq (hpoised : Poised p request h k d look t m snapshot b) :
    p.envelope k.accountId snapshot t m =
      (build (p.parts k snapshot t m b)).mapError Failure.ofBuild := by
  rw [envelope, hpoised.bounds]
  dsimp only [bind, Except.bind]
  rw [← parts]
  cases build (p.parts k snapshot t m b) <;> rfl

/-- A run whose transaction is built, and signed here, submits it if it fits the wire. -/
theorem Poised.exists_submitted {σ : Type} {answer : σ → (c : Call) → c.Answer × σ} {s : σ}
    {e : Envelope}
    (hpoised : Poised p request ((p.submit request).transcript answer s) k d look t m snapshot b)
    (hsigner : ∀ s k e, (answer s (.sign k e)).1 = Connections.signHere k e)
    (hbuild : build (p.parts k snapshot t m b) = .ok e)
    (hfits : e.transaction.encode?.isSome = true) :
    ∃ text reply, (⟨.submit text, reply⟩ : (c : Call) × c.Answer) ∈
      (p.submit request).transcript answer s := by
  obtain ⟨before, later, hsplit, hhand⟩ := hpoised.goes_handOver (Dialogue.goes_run answer s _)
  rw [hpoised.envelope_eq, hbuild] at hhand
  obtain ⟨reply, h', rfl, hrest⟩ := Dialogue.goes_ask_iff.mp hhand
  obtain ⟨s', hreply⟩ := Dialogue.exists_state_of_mem_transcript answer s (p.submit request)
    (q := .sign k e) (r := reply) (by rw [hsplit]; simp)
  obtain ⟨signed, hsigned⟩ := exists_signed (k := k) (Build.unsigned_of_build hbuild) hfits
  rw [hsigner, hsigned] at hreply
  subst hreply
  obtain ⟨reply, h'', rfl, -⟩ := Dialogue.goes_ask_iff.mp hrest
  exact ⟨signed.envelope, reply, by rw [hsplit]; simp⟩

/-- A run whose transaction cannot be built fails with what this means to the caller. -/
theorem Poised.failed_of_rejected {rejection : Build.Rejection}
    (hpoised : Poised p request h k d look t m snapshot b) (hgoes : (p.submit request).Goes h r)
    (hbuild : build (p.parts k snapshot t m b) = .error rejection) :
    ∃ o, r.1 = .outcome o ∧
      o.error.map PaymentError.code = some (Failure.ofBuild rejection).buildCode := by
  obtain ⟨before, later, -, hhand⟩ := hpoised.goes_handOver hgoes
  rw [hpoised.envelope_eq, hbuild] at hhand
  obtain ⟨-, rfl⟩ := Dialogue.goes_done_iff.mp hhand
  exact ⟨_, rfl, rfl⟩

/-- A run that hands over an envelope has it signed, and where it fails it is the server's error. -/
theorem goes_signed {envelope : Envelope} {q : Progress}
    (hgoes : (handOver k (.ok envelope, q)).Goes h r) :
    ∃ e q', r = conclude (e, q') ∧ .signed ∈ q'.trail ∧
      ∀ c, e = .error (.cause c) → c.code = .serverError := by
  obtain ⟨reply, h', -, hrest⟩ := Dialogue.goes_ask_iff.mp hgoes
  cases reply with
  | interrupted i =>
    obtain ⟨-, rfl⟩ := Dialogue.goes_done_iff.mp hrest
    refine ⟨_, _, rfl, by simp, ?_⟩
    intro c heq
    cases heq
  | failed f =>
    obtain ⟨-, rfl⟩ := Dialogue.goes_done_iff.mp hrest
    refine ⟨_, _, rfl, by simp, ?_⟩
    intro c heq
    cases heq
    rfl
  | value signed =>
    obtain ⟨reply, h'', -, hend⟩ := Dialogue.goes_ask_iff.mp hrest
    obtain ⟨-, rfl⟩ := Dialogue.goes_done_iff.mp hend
    refine ⟨_, _, rfl, by simp, ?_⟩
    intro c heq
    cases reply with
    | value result => cases heq
    | interrupted i => cases heq
    | failed f =>
      cases heq
      rfl

/-- A run whose transaction is built has it signed, and does not fail for its amount. -/
theorem Poised.signed_of_built {e : Envelope}
    (hpoised : Poised p request h k d look t m snapshot b) (hgoes : (p.submit request).Goes h r)
    (hbuild : build (p.parts k snapshot t m b) = .ok e) :
    .signed ∈ r.2.trail ∧
      ∀ o, r.1 = .outcome o → o.error.map PaymentError.code ≠ some .invalidAmount := by
  obtain ⟨before, later, -, hhand⟩ := hpoised.goes_handOver hgoes
  rw [hpoised.envelope_eq, hbuild] at hhand
  obtain ⟨end', q', rfl, hsigned, hcode⟩ := goes_signed hhand
  obtain ⟨⟨last, -, htrail⟩, -⟩ := conclude_trail end' q'
  refine ⟨by rw [htrail]; exact List.mem_append_left _ hsigned, ?_⟩
  intro o houtcome
  cases end' with
  | ok result =>
    cases houtcome
    exact nofun
  | error s =>
    cases s with
    | cause c =>
      cases houtcome
      show some c.code ≠ _
      rw [hcode c rfl]
      exact nofun
    | escaped e => cases houtcome
    | interrupted i =>
      cases i with
      | deadline =>
        cases houtcome
        exact nofun
      | canceled => cases houtcome

/-- The operation that a behaviour leads to is chosen by the calls that a run makes for it. -/
theorem chosen_of_agrees {answers : Behaviour} {asset : Asset}
    (hid : isAccountId d.accountId = true)
    (hasset : Asset.ofFields request.assetCode request.assetIssuer = .ok asset)
    (htransfer : answers.transfer? request d = some t) (hagrees : answers.Agrees 1 h)
    (hgoes : (p.choose request k d).Goes h r) :
    ∃ look later, h = look ++ later ∧ Chosen request d look t ∧
      look.length + 1 = Behaviour.loadTurn request := by
  have hnative := ofFields_isNative hasset
  unfold choose at hgoes
  rw [hasset] at hgoes
  unfold Behaviour.transfer? at htransfer
  unfold Behaviour.loadTurn
  cases asset with
  | credit code issuer =>
    obtain ⟨rfl, rfl⟩ := ofFields_credit hasset
    rw [if_neg (by simp [hnative])] at htransfer ⊢
    cases htransfer
    exact ⟨[], h, rfl, ⟨hid, _, hasset, .credit _ _⟩, rfl⟩
  | native =>
    rw [if_pos (hnative.mpr rfl)] at htransfer ⊢
    obtain ⟨reply, h', rfl, -⟩ := Dialogue.goes_ask_iff.mp hgoes
    obtain rfl : reply = .ofExcept (answers.looked d) := hagrees.1
    split at htransfer
    · rename_i looked hlooked
      cases htransfer
      rw [hlooked]
      exact ⟨[_], h', rfl, ⟨hid, _, hasset, .present looked⟩, rfl⟩
    · rename_i f hlooked
      split at htransfer
      · rename_i hmissing
        cases htransfer
        rw [hlooked]
        exact ⟨[_], h', rfl, ⟨hid, _, hasset, .missing f hmissing⟩, rfl⟩
      · cases htransfer

/-- A run against a behaviour that gathers all parts comes to the building. -/
theorem Gathered.poised {answers : Behaviour} {asset : Asset}
    (hall : Gathered answers request k d t m snapshot) (hdirect : p.takesRelay request = false)
    (hid : isAccountId d.accountId = true)
    (hasset : Asset.ofFields request.assetCode request.assetIssuer = .ok asset)
    (hbounds : p.bounds = .ok b) :
    ∃ look, Poised p request ((p.submit request).transcript answers.answer 0) k d look t m snapshot
      b := by
  have hgoes := Dialogue.goes_run answers.answer 0 (p.submit request)
  have hagrees : answers.Agrees 0 ((p.submit request).transcript answers.answer 0) :=
    Behaviour.agrees_transcript (p.submit request)
  generalize (p.submit request).transcript answers.answer 0 = h at hgoes hagrees ⊢
  have hmemo : memoVerdict request d = .ok m := by
    rw [memoVerdict, hall.memo]
  rw [submit_eq_direct hall.source hdirect] at hgoes
  obtain ⟨reply, h₁, rfl, hrest⟩ := Dialogue.goes_ask_iff.mp hgoes
  obtain rfl : reply = .ofExcept (answers.resolved request) := hagrees.1
  rw [hall.resolved, Reply.ofExcept_ok, judged_destination_of_isAccountId hid] at hrest
  obtain ⟨look, later, rfl, hchosen, hturn⟩ :=
    chosen_of_agrees hid hasset hall.transfer hagrees.2 hrest
  have hleft := goes_choose hchosen hrest
  rw [finish_eq, hmemo] at hleft
  obtain ⟨reply, h₃, rfl, -⟩ := Dialogue.goes_ask_iff.mp hleft
  have hload : reply = .ofExcept (answers.loaded request k) := by
    have hlast := (Behaviour.agrees_append.mp hagrees.2).2.1
    rw [Nat.add_comm 0 1, Nat.add_comm, hturn] at hlast
    exact hlast
  rw [hall.loaded] at hload
  subst hload
  rw [hall.resolved]
  exact ⟨look, hall.source, hdirect, ⟨h₃, rfl⟩, hchosen, hmemo, hbounds⟩

/-- A request for a payment from the key pair of zeros to itself, of any amount. -/
def amountRequest (amount : Text) : PaymentRequest := { zeroRequest with amount := amount }

/-- The parts of that payment, with any memo. -/
def amountParts (amount : Text) (m : Memo) : Parts :=
  (timedPipeline 0).parts ⟨zeroKey⟩ ⟨Keypair.accountId ⟨zeroKey⟩, 1⟩
    (.payment zeroKey.accountId amount .native) m none

/-- Whatever the amount is, that payment comes to the building of its transaction. -/
theorem amountRequest_poised (amount : Text) : ∃ look, Poised (timedPipeline 0)
    (amountRequest amount)
    (((timedPipeline 0).submit (amountRequest amount)).transcript signingAnswers.answer 0)
    ⟨zeroKey⟩ { accountId := zeroKey.accountId } look (.payment zeroKey.accountId amount .native)
    .none ⟨Keypair.accountId ⟨zeroKey⟩, 1⟩ none := by
  have hall : Gathered signingAnswers (amountRequest amount) ⟨zeroKey⟩
      { accountId := zeroKey.accountId } (.payment zeroKey.accountId amount .native) .none
      ⟨Keypair.accountId ⟨zeroKey⟩, 1⟩ := ⟨zeroRequest_source, rfl, rfl, rfl, rfl⟩
  exact hall.poised rfl (Key.isAccountId_accountId zeroKey) rfl rfl

/-- With a memo that is not too long, everything but the amount is in order there. -/
theorem amountParts_others (amount : Text) {m : Memo}
    (hshort : ∀ octets, m = .text octets → octets.length ≤ 28) (r : Build.Requirement)
    (hr : r ≠ .amount) : Build.Requirement.Met (amountParts amount m) r := by
  cases r with
  | network =>
    show "Test SDF Network ; September 2015" ≠ ""
    simp
  | source => exact ⟨Keypair.publicKey ⟨zeroKey⟩, rfl⟩
  | owner => rfl
  | sequence => exact (by decide : (0 : Int) ≤ 1 ∧ (1 : Int) ≤ 2 ^ 63 - 2)
  | destination => exact ⟨zeroKey, rfl⟩
  | assetCode => exact nofun
  | issuer => exact nofun
  | amount => exact absurd rfl hr
  | memo => exact hshort

/-- Without a memo, everything but the amount is in order there. -/
theorem amountRequest_others (amount : Text) :
    ∀ r, r ≠ .amount → Build.Requirement.Met (amountParts amount .none) r :=
  amountParts_others amount nofun

/-- A number with so many digits or more, the first ones zeros, as an amount. -/
def paddedAmount (width n : Nat) : String := String.ofList (Numeral.padded width n)

/-- Such an amount is a plain decimal without a point. -/
theorem paddedAmount_plain (width n : Nat) :
    Amount.Plain (paddedAmount width n) (Numeral.padded width n) [] where
  text := by
    have hspelt : Amount.spelt (Numeral.padded width n) [] = Numeral.padded width n := by
      rw [Amount.spelt, if_pos rfl, List.append_nil]
    rw [hspelt, paddedAmount]
  whole_ne := Numeral.padded_ne_nil width n
  whole_digits := fun _ => Numeral.isDigit_of_mem_padded
  part_digits := List.forall_mem_nil _
  part_length := Nat.zero_le _

/-- Such an amount is one of a payment exactly if its number is in range, however many zeros stand
before it. -/
theorem paddedAmount_valid_iff (width n : Nat) :
    Amount.Valid (paddedAmount width n) ↔ 1 ≤ n * 10 ^ 7 ∧ n * 10 ^ 7 ≤ 2 ^ 63 - 1 := by
  have hnumber : Amount.number (Numeral.padded width n) [] * 10 ^ 7 = ((n * 10 ^ 7 : Nat) : ℚ) := by
    have hpart : (Numeral.value [] : ℚ) = 0 := rfl
    rw [Amount.number, Numeral.value_padded, hpart]
    push_cast
    ring
  have hmaximum : (2 : ℚ) ^ 63 - 1 = ((2 ^ 63 - 1 : Nat) : ℚ) := by norm_num
  constructor
  · rintro ⟨whole, part, hplain, hrange⟩
    obtain ⟨rfl, rfl⟩ := (paddedAmount_plain width n).unique hplain
    rwa [hnumber, hmaximum, Nat.one_le_cast, Nat.cast_le] at hrange
  · intro hrange
    refine ⟨_, _, paddedAmount_plain width n, ?_⟩
    rwa [hnumber, hmaximum, Nat.one_le_cast, Nat.cast_le]

/-- With enough zeros such an amount has too many digits. -/
theorem paddedAmount_overlong {width : Nat} (hwidth : Numeral.maxDigits < width) (n : Nat) :
    Amount.Overlong (paddedAmount width n) := by
  refine ⟨_, _, paddedAmount_plain width n, ?_⟩
  rw [Numeral.padded, List.length_append, List.length_replicate]
  omega

/-- With few digits such an amount has not too many. -/
theorem paddedAmount_not_overlong {width n : Nat}
    (hlength : (Numeral.padded width n).length ≤ Numeral.maxDigits) :
    ¬ Amount.Overlong (paddedAmount width n) := by
  apply Amount.not_overlong
  rwa [paddedAmount, Text.codes_ofString, List.length_map, String.toList_ofList]

/-- Of a run that has gathered everything for its transaction, with all other parts in order, the
amount decides how it goes on. If not too many digits of it are to be read, the run fails for its
amount exactly if this is none of a payment, and is otherwise built and goes to the signer. With too
many digits to be read it fails with an error of the server, whatever the number is. -/
theorem amount_decides (p : Pipeline) (request : PaymentRequest) {σ : Type}
    (answer : σ → (c : Call) → c.Answer × σ) (s : σ) {k : Keypair} {d : Destination}
    {look : CallTranscript} {t : Transfer} {m : Memo} {snapshot : Snapshot} {b : Option TimeBounds}
    (hpoised : Poised p request ((p.submit request).transcript answer s) k d look t m snapshot b)
    (hothers : ∀ r, r ≠ .amount → Build.Requirement.Met (p.parts k snapshot t m b) r) :
    (¬ Amount.Overlong request.amount →
      ((∃ o, ((p.submit request).run answer s).1.1 = .outcome o ∧
          o.error.map PaymentError.code = some .invalidAmount) ↔ ¬ Amount.Valid request.amount) ∧
      (Amount.Valid request.amount →
        (∃ e, build (p.parts k snapshot t m b) = .ok e ∧ Drafted (p.parts k snapshot t m b) e) ∧
          .signed ∈ ((p.submit request).run answer s).1.2.trail)) ∧
    (Amount.Overlong request.amount →
      ∃ o, ((p.submit request).run answer s).1.1 = .outcome o ∧
        o.error.map PaymentError.code = some .serverError) := by
  have hgoes := Dialogue.goes_run answer s (p.submit request)
  have hamount : (p.parts k snapshot t m b).transfer.amount = request.amount :=
    hpoised.chosen.amount_eq
  rw [← hamount]
  refine ⟨fun hshort => ⟨⟨?_, fun hbad => ?_⟩, fun hgood => ?_⟩, fun hlong => ?_⟩
  · rintro ⟨o, houtcome, hcode⟩ hgood
    obtain ⟨e, hbuild, -⟩ := Build.build_of_valid hothers hshort hgood
    exact (hpoised.signed_of_built hgoes hbuild).2 o houtcome hcode
  · obtain ⟨f, hbuild, hkind⟩ := Build.build_of_not_valid hothers hshort hbad
    obtain ⟨o, houtcome, hcode⟩ := hpoised.failed_of_rejected hgoes hbuild
    refine ⟨o, houtcome, hcode.trans ?_⟩
    show some (Failure.codeOfBuild f.code) = _
    rw [hkind]
    rfl
  · obtain ⟨e, hbuild, hdrafted⟩ := Build.build_of_valid hothers hshort hgood
    exact ⟨⟨e, hbuild, hdrafted⟩, (hpoised.signed_of_built hgoes hbuild).1⟩
  · obtain ⟨e, hbuild⟩ := Build.build_of_overlong hothers hlong
    obtain ⟨o, houtcome, hcode⟩ := hpoised.failed_of_rejected hgoes hbuild
    exact ⟨o, houtcome, hcode.trans (congrArg some (Failure.buildCode_digits e))⟩

/-- The amount of nothing is refused as an amount. -/
theorem zero_amount_refused : (∃ look, Poised (timedPipeline 0) (amountRequest (paddedAmount 1 0))
      (((timedPipeline 0).submit (amountRequest (paddedAmount 1 0))).transcript
        signingAnswers.answer 0)
      ⟨zeroKey⟩ { accountId := zeroKey.accountId } look
      (.payment zeroKey.accountId (paddedAmount 1 0) .native) .none
      ⟨Keypair.accountId ⟨zeroKey⟩, 1⟩ none) ∧
    ∃ o, (((timedPipeline 0).submit (amountRequest (paddedAmount 1 0))).run
        signingAnswers.answer 0).1.1 = .outcome o ∧
      o.error.map PaymentError.code = some .invalidAmount := by
  obtain ⟨look, hpoised⟩ := amountRequest_poised (paddedAmount 1 0)
  have hbad : ¬ Amount.Valid (paddedAmount 1 0) := by
    rw [paddedAmount_valid_iff]
    decide
  have hshort : ¬ Amount.Overlong (paddedAmount 1 0) := paddedAmount_not_overlong (by decide)
  refine ⟨⟨look, hpoised⟩, ?_⟩
  exact ((amount_decides (timedPipeline 0) (amountRequest (paddedAmount 1 0))
    signingAnswers.answer 0 hpoised (amountRequest_others _)).1 hshort).1.mpr hbad

/-- An amount with too many digits before its point is not refused as an amount where it is none,
and is not built where it is one. -/
theorem not_always_decided :
    ¬ (∀ (p : Pipeline) (request : PaymentRequest) (answers : Behaviour) (k : Keypair)
      (d : Destination) (look : CallTranscript) (t : Transfer) (m : Memo) (snapshot : Snapshot)
      (b : Option TimeBounds),
      Poised p request ((p.submit request).transcript answers.answer 0) k d look t m snapshot b →
      (∀ r, r ≠ .amount → Build.Requirement.Met (p.parts k snapshot t m b) r) →
      ¬ Amount.Valid request.amount →
      ∃ o, ((p.submit request).run answers.answer 0).1.1 = .outcome o ∧
        o.error.map PaymentError.code = some .invalidAmount) ∧
    ¬ (∀ (p : Pipeline) (request : PaymentRequest) (answers : Behaviour) (k : Keypair)
      (d : Destination) (look : CallTranscript) (t : Transfer) (m : Memo) (snapshot : Snapshot)
      (b : Option TimeBounds),
      Poised p request ((p.submit request).transcript answers.answer 0) k d look t m snapshot b →
      (∀ r, r ≠ .amount → Build.Requirement.Met (p.parts k snapshot t m b) r) →
      Amount.Valid request.amount → ∃ e, build (p.parts k snapshot t m b) = .ok e) := by
  have hlong : ∀ n, Amount.Overlong (amountParts (paddedAmount 4301 n) .none).transfer.amount :=
    paddedAmount_overlong (by decide)
  constructor
  · intro hall
    obtain ⟨look, hpoised⟩ := amountRequest_poised (paddedAmount 4301 0)
    have hbad : ¬ Amount.Valid (paddedAmount 4301 0) := by
      rw [paddedAmount_valid_iff]
      decide
    obtain ⟨o, houtcome, hcode⟩ := hall _ _ _ _ _ _ _ _ _ _ hpoised (amountRequest_others _) hbad
    obtain ⟨e, hbuild⟩ := Build.build_of_overlong (amountRequest_others _) (hlong 0)
    obtain ⟨o', houtcome', hcode'⟩ := hpoised.failed_of_rejected
      (Dialogue.goes_run signingAnswers.answer 0 _) hbuild
    rw [houtcome] at houtcome'
    cases houtcome'
    rw [hcode] at hcode'
    cases hcode'.trans (congrArg some (Failure.buildCode_digits e))
  · intro hall
    obtain ⟨look, hpoised⟩ := amountRequest_poised (paddedAmount 4301 1)
    have hgood : Amount.Valid (paddedAmount 4301 1) := by
      rw [paddedAmount_valid_iff]
      decide
    obtain ⟨e, hbuild⟩ := hall _ _ _ _ _ _ _ _ _ _ hpoised (amountRequest_others _) hgood
    obtain ⟨e', hfails⟩ := Build.build_of_overlong (amountRequest_others _) (hlong 1)
    have heq : build (amountParts (paddedAmount 4301 1) .none) = .ok e := hbuild
    rw [hfails] at heq
    cases heq

end Pipeline

end Remittance
