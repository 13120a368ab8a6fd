import Remittance.Gateway.Service
import Remittance.Proofs.Ledger.Intent
import Remittance.Proofs.Payment.Amount
import Remittance.Proofs.Payment.Signing

/-!
# Fees that are built and not signed

The settings take every positive fee, and the building of a transaction takes every fee at all,
while the wire has a word of 32 bits for it. The main statement is that with the settings that are
taken a transaction which was built can be signed if and only if the fee fits that word. With any
other fee the gateway runs, assembles every payment and fails it at the signer.
-/

set_option autoImplicit false

namespace Remittance

open Pipeline

namespace Settings

/-- What holds of a setting's default and of all that is read for it holds of its value. -/
theorem check_value {α : Type} {holds : α → Prop} {given : String → Option Json} {name : String}
    {default : α} {read : Json → Except Fault α} (hdefault : holds default)
    (hread : ∀ j a, read j = .ok a → holds a) : holds (check given name default read).value := by
  unfold check
  split
  · exact hdefault
  · split
    · rename_i hj
      exact hread _ _ hj
    · exact hdefault

/-- A fee that is accepted is positive. -/
theorem pos_of_readFee {j : Json} {n : Int} (hread : readFee j = .ok n) : 0 < n := by
  unfold readFee at hread
  split at hread
  · split at hread
    · rename_i hpos
      cases hread
      exact hpos
    · cases hread
  · cases hread

/-- A fee that the settings take is positive. -/
theorem baseFee_pos {environment : List (String × String)} {arguments : Json.Members}
    {s : Settings} (hread : Settings.read environment arguments = .ok s) : 0 < s.baseFee := by
  unfold Settings.read at hread
  dsimp only at hread
  split at hread
  · cases hread
    exact check_value (by decide : (0 : Int) < 100) fun _ _ => pos_of_readFee
  · cases hread

end Settings

/-- What is assembled here has the fee of the pipeline. -/
theorem Pipeline.Making.fee_of_direct {p : Pipeline} {request : PaymentRequest} {k : Keypair}
    {q q' : Progress} {h : CallTranscript} {envelope : Envelope}
    (hmaking : Making p request k q h (.ok envelope) q') (hdirect : p.takesRelay request = false) :
    envelope.transaction.fee = p.baseFee := by
  cases hmaking with
  | relay reply e hpath hend =>
    rw [hdirect] at hpath
    cases hpath
  | direct h e q' hpath hassembly =>
    cases hassembly with
    | build d look t m snapshot e hchosen hmemo hend =>
      obtain ⟨b, -, hbuild⟩ := envelope_eq_ok_iff.mp (mapError_eq_ok_iff.mp hend.symm)
      exact (Build.drafted_of_build hbuild).fee

namespace Gateway

/-- With settings that are taken, a transaction that was built with their fee is signed if and only
if the fee fits its word, and is refused as out of range otherwise. So a payment that is assembled
here and comes to the signer fails right there if and only if the fee does not fit. -/
theorem built_signed_iff {environment : List (String × String)} {arguments : Json.Members}
    {s : Settings} (hread : Settings.read environment arguments = .ok s) :
    (∀ parts e k, parts.baseFee = s.baseFee → build parts = .ok e →
      ((∃ signed, Connections.signHere k e = .value signed) ↔ s.baseFee < 2 ^ 32) ∧
      (2 ^ 32 ≤ s.baseFee → Connections.signHere k e = .failed (.signing .wordRange))) ∧
    ∀ (clock : Binary64) (request : PaymentRequest) (σ : Type)
      (answer : σ → (c : Call) → c.Answer × σ) (state : σ),
      (∀ state k e, (answer state (.sign k e)).1 = Connections.signHere k e) →
      (pipeline s clock).takesRelay request = false →
      .signed ∈ (((pipeline s clock).submit request).run answer state).1.2.trail →
      ([.signed, .failed] <:+ (((pipeline s clock).submit request).run answer state).1.2.trail ↔
        2 ^ 32 ≤ s.baseFee) := by
  have hpos := Settings.baseFee_pos hread
  constructor
  · intro parts e k hfee hbuild
    have hdrafted := Build.drafted_of_build hbuild
    have htransaction : e.transaction.fee = s.baseFee := by rw [hdrafted.fee, hfee]
    constructor
    · rw [exists_signHere_iff hdrafted.unsigned, htransaction]
      omega
    · intro hlarge
      apply signHere_of_unwritable
      rw [← Option.isNone_iff_eq_none, ← Option.isSome_eq_false_iff, ← Bool.not_eq_true,
        Transaction.isSome_encode?_iff, htransaction]
      omega
  · intro clock request σ answer state hsigner hdirect hsigned
    obtain ⟨k, envelope, q₁, h₁, hmaking, hfailed⟩ := failed_at_signing_iff hsigner hsigned
    have hfee : envelope.transaction.fee = s.baseFee := hmaking.fee_of_direct hdirect
    rw [hfailed, hfee]
    omega

/-- A positive fee is taken for the settings. -/
theorem read_baseFee {fee : Int} (hpos : 0 < fee) :
    Settings.read [] [("base_fee", .int fee)] = .ok { baseFee := fee } := by
  have hlower : LowerCase.ofText "base_fee" = "base_fee" := by decide +kernel
  have hfee : Settings.readFee (.int fee) = .ok fee := if_pos hpos
  have hgiven : ∀ name, Settings.given [] [("base_fee", .int fee)] name =
      if name = "base_fee" then some (.int fee) else none := by
    intro name
    unfold Settings.given Settings.fromArguments?
    by_cases hname : name = "base_fee"
    · simp [hlower, hname]
    · simp [hlower, hname, Ne.symm hname, Settings.fromEnvironment?]
  have hknown : Settings.unknown [("base_fee", .int fee)] = [] := by
    simp [Settings.unknown, hlower, Settings.names]
  unfold Settings.read
  simp [hknown, Settings.checkAll, Settings.check, hgiven, hfee]

/-- The parts that the payment of one unit comes to with a fee. -/
def unitParts (fee : Int) : Parts :=
  (pipeline { baseFee := fee } (.ofInt 0)).parts ⟨zeroKey⟩ ⟨Keypair.accountId ⟨zeroKey⟩, 1⟩
    (.payment zeroKey.accountId "1" .native) .none none

/-- With any fee the payment of one unit is built, and a run for it comes to the signer. -/
theorem unitParts_built (fee : Int) : (∃ e, build (unitParts fee) = .ok e) ∧
    .signed ∈ (((pipeline { baseFee := fee } (.ofInt 0)).submit zeroRequest).run
      signingAnswers.answer 0).1.2.trail := by
  have hparse : Amount.parse "1" = .ok 10000000 := by decide +kernel
  have hbuilds : ∃ e, build (unitParts fee) = .ok e :=
    Build.exists_native (by decide : "Test SDF Network ; September 2015" ≠ "") (by decide) hparse
  obtain ⟨e, hbuild⟩ := hbuilds
  have hall : Gathered signingAnswers zeroRequest ⟨zeroKey⟩ { accountId := zeroKey.accountId }
      (.payment zeroKey.accountId "1" .native) .none ⟨Keypair.accountId ⟨zeroKey⟩, 1⟩ :=
    ⟨zeroRequest_source, rfl, rfl, rfl, rfl⟩
  obtain ⟨look, hpoised⟩ := @Gathered.poised (pipeline { baseFee := fee } (.ofInt 0)) _ _ _ _ _ _
    none _ _ hall rfl (Key.isAccountId_accountId zeroKey) rfl rfl
  exact ⟨⟨e, hbuild⟩, (hpoised.signed_of_built (Dialogue.goes_run _ _ _) hbuild).1⟩

/-- The payment of one unit is signed with a fee of one hundred. -/
theorem small_fee_signed : ∃ e signed,
    Settings.read [] [("base_fee", .int 100)] = .ok { baseFee := 100 } ∧
    build (unitParts 100) = .ok e ∧ Connections.signHere ⟨zeroKey⟩ e = .value signed ∧
    .signed ∈ (((pipeline { baseFee := 100 } (.ofInt 0)).submit zeroRequest).run
      signingAnswers.answer 0).1.2.trail ∧
    ¬ [.signed, .failed] <:+ (((pipeline { baseFee := 100 } (.ofInt 0)).submit zeroRequest).run
      signingAnswers.answer 0).1.2.trail := by
  have hread := read_baseFee (by decide : (0 : Int) < 100)
  obtain ⟨⟨e, hbuild⟩, hsigned⟩ := unitParts_built 100
  obtain ⟨hparts, hruns⟩ := built_signed_iff hread
  obtain ⟨signed, hvalue⟩ :=
    (hparts _ e ⟨zeroKey⟩ rfl hbuild).1.mpr (by decide : (100 : Int) < 2 ^ 32)
  refine ⟨e, signed, hread, hbuild, hvalue, hsigned, ?_⟩
  rw [hruns _ _ _ _ 0 signingAnswers_sign rfl hsigned]
  exact (by decide : ¬ (2 : Int) ^ 32 ≤ 100)

/-- Not every transaction that was built with a fee of the settings is signed, and a run can fail
right after it came to the signer. -/
theorem not_always_signed :
    ¬ (∀ environment arguments s parts e k, Settings.read environment arguments = .ok s →
      parts.baseFee = s.baseFee → build parts = .ok e →
      ∃ signed, Connections.signHere k e = .value signed) ∧
    ¬ (∀ environment arguments s clock request (answers : Behaviour),
      Settings.read environment arguments = .ok s →
      (∀ turn k e, (answers.answer turn (.sign k e)).1 = Connections.signHere k e) →
      (pipeline s clock).takesRelay request = false →
      ¬ [.signed, .failed] <:+
        (((pipeline s clock).submit request).run answers.answer 0).1.2.trail) := by
  have hread := read_baseFee (by decide : (0 : Int) < 4294967296)
  obtain ⟨⟨e, hbuild⟩, hsigned⟩ := unitParts_built 4294967296
  have hunsigned := (Build.drafted_of_build hbuild).unsigned
  have hfee : e.transaction.fee = 4294967296 := (Build.drafted_of_build hbuild).fee
  constructor
  · intro hall
    have hvalue := hall [] _ _ _ e ⟨zeroKey⟩ hread rfl hbuild
    rw [exists_signHere_iff hunsigned, hfee] at hvalue
    omega
  · intro hall
    refine hall [] _ _ (.ofInt 0) zeroRequest signingAnswers hread signingAnswers_sign rfl ?_
    obtain ⟨k, envelope, q₁, h₁, hmaking, hfailed⟩ :=
      failed_at_signing_iff signingAnswers_sign hsigned
    have hmade : envelope.transaction.fee = 4294967296 := hmaking.fee_of_direct rfl
    rw [hfailed, hmade]
    omega

end Gateway

end Remittance
