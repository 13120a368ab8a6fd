import Remittance.Proofs.Ledger.Build
import Remittance.Proofs.Ledger.Operation

/-!
# What a transaction requires of its parts

The parts of a transaction have nine conditions to meet, in a fixed order. A transaction is built
exactly if all of them are met, and otherwise the first one that is not is named, unless it is that
of a sequence number with so many digits that it cannot be shown. What the checks let through the
ledger takes, so nothing is refused after them.
-/

set_option autoImplicit false

namespace Remittance

/-- An asset of the ledger is the one that was asked for. -/
inductive Names : Asset → LedgerAsset → Prop where
  | native : Names .native .native
  | credit (code : AssetCode) (issuer : Key) :
    Names (.credit (String.ofList code.val) issuer.accountId) (.credit code issuer)

/-- An action of the ledger does what a transfer asks for. -/
inductive Does : Transfer → Action LedgerAsset → Prop where
  | createAccount (destination : Key) (amount : Text) (n : Int64) (hcounts : Counts amount n) :
    Does (.createAccount destination.accountId amount) (.createAccount destination n)
  | payment (destination : Key) (amount : Text) (asset : Asset) (admitted : LedgerAsset)
      (n : Int64) (hasset : Names asset admitted) (hcounts : Counts amount n) :
    Does (.payment destination.accountId amount asset)
      (.payment (Party.ofKey destination) admitted n)

/-- An envelope is the unsigned one that the parts of a payment ask for, with one operation. -/
structure Drafted (parts : Parts) (e : Envelope) : Prop where
  unsigned : e.signatures = []
  network : e.network = parts.network
  source : ∃ key : Key, e.transaction.source = Party.ofKey key ∧ key.accountId = parts.source
  fee : e.transaction.fee = parts.baseFee
  sequence : e.transaction.sequence.toInt = parts.snapshot.sequence + 1
  conditions : e.transaction.conditions = .time (parts.bounds.getD .always)
  memo : parts.memo.toLedger? = some e.transaction.memo
  operation : ∃ action, e.transaction.operations.val = [⟨none, action⟩] ∧ Does parts.transfer action
  ending : e.transaction.ending = none

/-- The transaction of such an envelope fits the wire if its fee does. -/
theorem Drafted.fits {parts : Parts} {e : Envelope} (hdrafted : Drafted parts e)
    (hfee : 0 ≤ parts.baseFee ∧ parts.baseFee < 0x100000000) :
    e.transaction.encode?.isSome = true := by
  obtain ⟨action, haction, hdoes⟩ := hdrafted.operation
  have hwired : ∃ op : Operation Wire.Asset,
      (⟨none, action⟩ : Operation LedgerAsset).mapAssets? (fun a => some a.toWire) = some op := by
    generalize parts.transfer = transfer at hdoes
    cases hdoes <;> exact ⟨_, rfl⟩
  obtain ⟨op, hop⟩ := hwired
  have hoperations : allSomeUpTo (fun op => op.mapAssets? fun a => some a.toWire)
      e.transaction.operations = some ⟨[op], by simp⟩ := by
    rw [allSomeUpTo_eq_some_iff, haction, allSome, hop]
    rfl
  rw [Transaction.encode?, Option.isSome_map, Transaction.toWire?, hoperations]
  simp [hdrafted.fee, hfee]

namespace Build

/-- A condition on the parts of a transaction. -/
inductive Requirement where
  | network
  | source
  | owner
  | sequence
  | destination
  | assetCode
  | issuer
  | amount
  | memo
deriving DecidableEq

namespace Requirement

/-- The conditions, in the order in which they are checked. -/
def all : List Requirement :=
  [.network, .source, .owner, .sequence, .destination, .assetCode, .issuer, .amount, .memo]

/-- Every condition is checked. -/
theorem mem_all (r : Requirement) : r ∈ all := by
  cases r <;> decide

/-- What a transaction is said to fail for if the condition is not met. -/
def code : Requirement → Code
  | .network => .network
  | .source => .account
  | .owner => .account
  | .sequence => .sequence
  | .destination => .account
  | .assetCode => .assetCode
  | .issuer => .account
  | .amount => .amount
  | .memo => .memoTooLong

example : all.map code = [.network, .account, .account, .sequence, .account, .assetCode, .account,
    .amount, .memoTooLong] := rfl

/-- The condition is met by the parts. -/
def Met (p : Parts) : Requirement → Prop
  | .network => p.network ≠ ""
  | .source => ∃ key : Key, p.source = key.accountId
  | .owner => p.snapshot.accountId = p.source
  | .sequence => 0 ≤ p.snapshot.sequence ∧ p.snapshot.sequence ≤ 2 ^ 63 - 2
  | .destination => ∃ key : Key, p.transfer.destination = key.accountId
  | .assetCode => ∀ code issuer, p.transfer.asset = .credit code issuer → ∃ s : String,
      code = s ∧ 1 ≤ s.length ∧ s.length ≤ 12 ∧ ∀ c ∈ s.toList, c.isAlphanum = true
  | .issuer => ∀ code issuer, p.transfer.asset = .credit code issuer →
      ∃ key : Key, issuer = key.accountId
  | .amount => Amount.Valid p.transfer.amount
  | .memo => ∀ octets, p.memo = .text octets → octets.length ≤ 28

/-- The check of one condition. -/
def test (p : Parts) : Requirement → Except Rejection Unit
  | .network => require (!p.network.isEmpty) .networkMissing
  | .source => require (isAccountId p.source) (.account .source)
  | .owner => require (p.snapshot.accountId == p.source) .snapshotOwner
  | .sequence => checkSequence p.snapshot
  | .destination => require (isAccountId p.transfer.destination) (.account .destination)
  | .assetCode => match p.transfer.asset with
    | .native => .ok ()
    | .credit code _ => checkAssetCode code
  | .issuer => match p.transfer.asset with
    | .native => .ok ()
    | .credit _ account => require (isAccountId account) (.account .issuer)
  | .amount => checkAmount p.transfer.amount
  | .memo => checkMemo p.memo

end Requirement

/-- Characters are an asset code exactly if they are one to twelve letters and digits. -/
theorem isAssetCode_iff {s : String} : isAssetCode s.toList = true ↔
    1 ≤ s.length ∧ s.length ≤ 12 ∧ ∀ c ∈ s.toList, c.isAlphanum = true := by
  simp [isAssetCode, and_assoc, String.length_toList]

/-- A text gives an asset code exactly if it is one to twelve letters and digits. -/
theorem isSome_ofText?_iff {t : Text} : (AssetCode.ofText? t).isSome = true ↔ ∃ s : String,
    t = s ∧ 1 ≤ s.length ∧ s.length ≤ 12 ∧ ∀ c ∈ s.toList, c.isAlphanum = true := by
  rw [Option.isSome_iff_exists]
  constructor
  · rintro ⟨code, hcode⟩
    refine ⟨String.ofList code.val, AssetCode.ofText?_eq_some_iff.mp hcode, ?_⟩
    exact isAssetCode_iff.mp (by rw [String.toList_ofList]; exact code.property)
  · rintro ⟨s, rfl, hs⟩
    exact ⟨⟨s.toList, isAssetCode_iff.mpr hs⟩,
      AssetCode.ofText?_eq_some_iff.mpr (by rw [String.ofList_toList])⟩

/-- All parts are checked by checking one condition after the other. -/
theorem check_eq_forM (p : Parts) : check p = Requirement.all.forM (Requirement.test p) := by
  unfold check checkAsset Requirement.all
  cases hasset : p.transfer.asset with
  | native =>
    simp [List.forM, Requirement.test, hasset]
    rfl
  | credit code issuer => simp [List.forM, Requirement.test, hasset]

/-- A check lets through exactly what is so, and otherwise finds a fault of one kind. -/
def Decides (x : Except Rejection Unit) (holds : Prop) (code : Code) : Prop :=
  (holds ∧ x = .ok ()) ∨ (¬ holds ∧ ∃ f : Fault, x = .error (.fault f) ∧ f.code = code)

/-- What is so is let through. -/
theorem Decides.eq_ok {x : Except Rejection Unit} {holds : Prop} {code : Code}
    (hdecides : Decides x holds code) (hholds : holds) : x = .ok () := by
  rcases hdecides with ⟨-, hok⟩ | ⟨hfails, -⟩
  · exact hok
  · exact absurd hholds hfails

/-- What is let through is so. -/
theorem Decides.holds {x : Except Rejection Unit} {holds : Prop} {code : Code}
    (hdecides : Decides x holds code) (hok : x = .ok ()) : holds := by
  rcases hdecides with ⟨hholds, -⟩ | ⟨-, f, hfails, -⟩
  · exact hholds
  · rw [hfails] at hok
    cases hok

/-- What is not so is a fault of its kind. -/
theorem Decides.exists_fault {x : Except Rejection Unit} {holds : Prop} {code : Code}
    (hdecides : Decides x holds code) (hfails : ¬ holds) :
    ∃ f : Fault, x = .error (.fault f) ∧ f.code = code := by
  rcases hdecides with ⟨hholds, -⟩ | ⟨-, hfault⟩
  · exact absurd hholds hfails
  · exact hfault

/-- A requirement decides what its condition says. -/
theorem decides_require {condition : Bool} {holds : Prop} (hiff : condition = true ↔ holds)
    (f : Fault) : Decides (require condition f) holds f.code := by
  by_cases hcondition : condition = true
  · exact .inl ⟨hiff.mp hcondition, require_eq_ok_iff.mpr hcondition⟩
  · exact .inr ⟨mt hiff.mpr hcondition, f, if_neg hcondition, rfl⟩

/-- The next sequence number of a snapshot has no more digits than can be shown. -/
def Shown (s : Snapshot) : Prop := (Numeral.digits s.next.natAbs).length ≤ Numeral.maxDigits

/-- The next sequence number is in range exactly if the present one is at most the last but one. -/
theorem checkSequence_iff {s : Snapshot} : (0 ≤ s.sequence ∧ s.next ≤ maxSequence) ↔
    0 ≤ s.sequence ∧ s.sequence ≤ 2 ^ 63 - 2 := by
  have hlast : (2 : Int) ^ 63 - 2 = maxSequence - 1 := by decide
  rw [hlast, Snapshot.next]
  omega

/-- A sequence number of which the next can be shown is decided by its check. -/
theorem decides_checkSequence {s : Snapshot} (hshown : Shown s) :
    Decides (checkSequence s) (0 ≤ s.sequence ∧ s.sequence ≤ 2 ^ 63 - 2) .sequence := by
  have hwrite : Numeral.write s.next = .ok (Numeral.ofInt s.next) := if_pos hshown
  unfold checkSequence
  rw [hwrite]
  by_cases hrange : 0 ≤ s.sequence ∧ s.next ≤ maxSequence
  · exact .inl ⟨checkSequence_iff.mp hrange, if_pos hrange⟩
  · exact .inr ⟨mt checkSequence_iff.mpr hrange, _, if_neg hrange, rfl⟩

/-- A sequence number that cannot be shown is refused, but not by naming it. -/
theorem checkSequence_of_not_shown {s : Snapshot} (hlarge : ¬ Shown s) :
    checkSequence s = .error (.large ⟨⟩) := by
  have hrange : ¬ (0 ≤ s.sequence ∧ s.next ≤ maxSequence) := by
    rintro ⟨hlow, hhigh⟩
    have hfew : s.next.natAbs < 10 ^ 19 := by
      rw [maxSequence] at hhigh
      have hnext : s.next = s.sequence + 1 := rfl
      omega
    exact hlarge (((Numeral.length_digits_le_iff (by decide)).mpr hfew).trans (by decide))
  have hwrite : Numeral.write s.next = .error ⟨⟩ := if_neg hlarge
  rw [checkSequence, if_neg hrange, hwrite]

/-- An amount that is not overlong is decided by its check. -/
theorem decides_checkAmount {text : Text} (hlength : ¬ Amount.Overlong text) :
    Decides (checkAmount text) (Amount.Valid text) .amount := by
  unfold checkAmount
  rcases Amount.parse_of_not_overlong hlength with ⟨hvalid, n, hparse⟩ | ⟨hinvalid, hparse | hparse⟩
  · rw [hparse]
    exact .inl ⟨hvalid, rfl⟩
  · rw [hparse]
    exact .inr ⟨hinvalid, _, rfl, rfl⟩
  · rw [hparse]
    exact .inr ⟨hinvalid, _, rfl, rfl⟩

/-- Each condition is decided by its check, if not too many digits of the amount are to be read or
of the sequence number to be shown. -/
theorem Requirement.decides_test {p : Parts} {r : Requirement}
    (hlength : r = .amount → ¬ Amount.Overlong p.transfer.amount)
    (hshown : r = .sequence → Shown p.snapshot) :
    Decides (test p r) (Met p r) r.code := by
  cases r with
  | network => exact decides_require (by simp [Met]) _
  | source => exact decides_require Key.isAccountId_iff _
  | owner => exact decides_require beq_iff_eq _
  | sequence => exact decides_checkSequence (hshown rfl)
  | destination => exact decides_require Key.isAccountId_iff _
  | assetCode =>
    show Decides (match p.transfer.asset with
      | .native => .ok ()
      | .credit code _ => checkAssetCode code) _ .assetCode
    cases hasset : p.transfer.asset with
    | native => exact .inl ⟨by simp [Met, hasset], rfl⟩
    | credit code issuer =>
      refine decides_require (isSome_ofText?_iff.trans ?_) .assetCode
      simp [Met, hasset]
  | issuer =>
    show Decides (match p.transfer.asset with
      | .native => .ok ()
      | .credit _ account => require (isAccountId account) (.account .issuer)) _ .account
    cases hasset : p.transfer.asset with
    | native => exact .inl ⟨by simp [Met, hasset], rfl⟩
    | credit code account =>
      refine decides_require (Key.isAccountId_iff.trans ?_) (.account .issuer)
      simp [Met, hasset]
  | amount => exact decides_checkAmount (hlength rfl)
  | memo =>
    show Decides (checkMemo p.memo) _ .memoTooLong
    cases hmemo : p.memo with
    | text octets =>
      refine decides_require (decide_eq_true_iff.trans ?_) (.memoTooLong octets.length)
      simp [Met, hmemo, Memo.maxText]
    | none => exact .inl ⟨by simp [Met, hmemo], rfl⟩
    | id value => exact .inl ⟨by simp [Met, hmemo], rfl⟩
    | hash octets => exact .inl ⟨by simp [Met, hmemo], rfl⟩

/-- The ledger takes a valid amount as what it counts. -/
theorem amount_of_valid {text : Text} (hlength : ¬ Amount.Overlong text)
    (hvalid : Amount.Valid text) (role : Admission.AmountRole) :
    ∃ n, Admission.amount role text = .ok n ∧ Counts text (Int64.ofNat n) := by
  rcases Amount.parse_of_not_overlong hlength with ⟨-, n, hparse⟩ | ⟨hinvalid, -⟩
  · have hadmitted := Admission.amount_of_parse role hparse
    exact ⟨n, hadmitted, counts_of_amount hparse hadmitted⟩
  · exact absurd hvalid hinvalid

/-- The ledger takes an asset whose code and issuer are in order. -/
theorem exists_ledgerAsset {p : Parts} (hcode : Requirement.Met p .assetCode)
    (hissuer : Requirement.Met p .issuer) :
    ∃ a, ledgerAsset p.transfer.asset = .ok a ∧ Names p.transfer.asset a := by
  cases hasset : p.transfer.asset with
  | native => exact ⟨_, rfl, .native⟩
  | credit code issuer =>
    obtain ⟨key, rfl⟩ := hissuer code issuer hasset
    obtain ⟨admitted, hadmitted⟩ :=
      Option.isSome_iff_exists.mp (isSome_ofText?_iff.mpr (hcode code _ hasset))
    refine ⟨.credit admitted key, ?_, ?_⟩
    · show Admission.asset code key.accountId = _
      rw [Admission.asset, hadmitted, Key.ofAccountId?_accountId]
    · rw [AssetCode.ofText?_eq_some_iff.mp hadmitted]
      exact .credit admitted key

/-- The ledger takes an operation whose parts are in order. -/
theorem exists_ledgerAction {p : Parts} (hlength : ¬ Amount.Overlong p.transfer.amount)
    (hall : ∀ r, Requirement.Met p r) :
    ∃ action, ledgerAction p.transfer = .ok action ∧ Does p.transfer action := by
  obtain ⟨key, hkey⟩ := hall .destination
  obtain ⟨a, hasset, hnames⟩ := exists_ledgerAsset (hall .assetCode) (hall .issuer)
  have hvalid : Amount.Valid p.transfer.amount := hall .amount
  cases htransfer : p.transfer with
  | createAccount destination amount =>
    rw [htransfer] at hkey hvalid hlength
    obtain rfl : destination = key.accountId := hkey
    obtain ⟨n, hamount, hcounts⟩ := amount_of_valid hlength hvalid .startingBalance
    have haccount : Admission.account key.accountId = .ok key := by
      rw [Admission.account, Key.ofAccountId?_accountId]
    refine ⟨.createAccount key (Int64.ofNat n), ?_, .createAccount key amount _ hcounts⟩
    exact bind_eq_ok_iff.mpr ⟨_, haccount, bind_eq_ok_iff.mpr ⟨_, hamount, rfl⟩⟩
  | payment destination amount asset =>
    rw [htransfer] at hkey hvalid hlength hasset hnames
    obtain rfl : destination = key.accountId := hkey
    obtain ⟨n, hamount, hcounts⟩ := amount_of_valid hlength hvalid .payment
    have hparty : Admission.party key.accountId = .ok (Party.ofKey key) := by
      rw [Admission.party, Party.ofText?, Key.ofAccountId?_accountId]
    refine ⟨.payment (Party.ofKey key) a (Int64.ofNat n), ?_,
      .payment key amount asset a _ hnames hcounts⟩
    exact bind_eq_ok_iff.mpr ⟨_, hasset, bind_eq_ok_iff.mpr ⟨_, hparty,
      bind_eq_ok_iff.mpr ⟨_, hamount, rfl⟩⟩⟩

/-- The ledger takes a memo that is not too long. -/
theorem exists_ledgerMemo {p : Parts} (hmemo : Requirement.Met p .memo) :
    ∃ l, Admission.memo p.memo = .ok l ∧ p.memo.toLedger? = some l := by
  have hfits : ∃ l, p.memo.toLedger? = some l := by
    cases hkind : p.memo with
    | text octets => exact ⟨_, dif_pos (hmemo octets hkind)⟩
    | none => exact ⟨_, rfl⟩
    | id value => exact ⟨_, rfl⟩
    | hash octets => exact ⟨_, rfl⟩
  obtain ⟨l, hl⟩ := hfits
  exact ⟨l, by rw [Admission.memo, hl], hl⟩

/-- The transaction of parts that meet all conditions is the one that they ask for. -/
theorem exists_assembled {p : Parts} (hlength : ¬ Amount.Overlong p.transfer.amount)
    (hall : ∀ r, Requirement.Met p r) :
    ∃ t, assemble p = .ok t ∧ Drafted p (.unsigned t p.network) := by
  obtain ⟨source, hsource⟩ := hall .source
  obtain ⟨action, haction, hdoes⟩ := exists_ledgerAction hlength hall
  obtain ⟨memo, hmemo, hledger⟩ := exists_ledgerMemo (hall .memo)
  obtain ⟨hlow, hhigh⟩ : 0 ≤ p.snapshot.sequence ∧ p.snapshot.sequence ≤ 2 ^ 63 - 2 :=
    hall .sequence
  have haccount : Admission.account p.source = .ok source := by
    rw [hsource, Admission.account, Key.ofAccountId?_accountId]
  have hsequence : (Int64.ofInt p.snapshot.next).toInt = p.snapshot.sequence + 1 := by
    rw [Snapshot.next]
    exact Int64.toInt_ofInt_of_le (by omega) (by omega)
  refine ⟨_, bind_eq_ok_iff.mpr ⟨_, haccount, bind_eq_ok_iff.mpr ⟨_, haction,
    bind_eq_ok_iff.mpr ⟨_, hmemo, rfl⟩⟩⟩, ?_⟩
  exact ⟨rfl, rfl, ⟨source, rfl, hsource.symm⟩, rfl, hsequence, rfl, hledger,
    ⟨action, rfl, hdoes⟩, rfl⟩

/-- A sequence number in range can be shown. -/
theorem Shown.of_met {p : Parts} (hmet : Requirement.Met p .sequence) : Shown p.snapshot := by
  by_contra hlarge
  have hrefused := checkSequence_of_not_shown hlarge
  rw [checkSequence, if_pos (checkSequence_iff.mpr hmet)] at hrefused
  cases hrefused

/-- Parts that meet all conditions are built into the envelope that they ask for. -/
theorem exists_drafted {p : Parts} (hlength : ¬ Amount.Overlong p.transfer.amount)
    (hall : ∀ r, Requirement.Met p r) : ∃ e, build p = .ok e ∧ Drafted p e := by
  have hcheck : check p = .ok () := by
    rw [check_eq_forM]
    refine forM_eq_ok fun r _ => ?_
    exact (Requirement.decides_test (fun _ => hlength) fun _ => .of_met (hall .sequence)).eq_ok
      (hall r)
  obtain ⟨t, hassemble, hdrafted⟩ := exists_assembled hlength hall
  refine ⟨_, bind_eq_ok_iff.mpr ⟨(), hcheck, ?_⟩, hdrafted⟩
  rw [hassemble]
  rfl

/-- The amount of a transaction that was built is not overlong. -/
theorem not_overlong_of_build {p : Parts} {e : Envelope} (hbuild : build p = .ok e) :
    ¬ Amount.Overlong p.transfer.amount := by
  obtain ⟨_, hcheck, -⟩ := bind_eq_ok_iff.mp hbuild
  intro hlong
  obtain ⟨n, hread⟩ := (checked_of_check hcheck).amount
  obtain ⟨failure, hfails⟩ := Amount.parse_of_overlong hlong
  rw [hread] at hfails
  cases hfails

/-- The parts of a transaction that was built meet all conditions. -/
theorem met_of_build {p : Parts} {e : Envelope} (hbuild : build p = .ok e) (r : Requirement) :
    Requirement.Met p r := by
  obtain ⟨_, hcheck, -⟩ := bind_eq_ok_iff.mp hbuild
  have hshown : Shown p.snapshot :=
    .of_met (checkSequence_iff.mp (checked_of_check hcheck).sequence)
  rw [check_eq_forM] at hcheck
  apply (Requirement.decides_test (fun _ => not_overlong_of_build hbuild) fun _ => hshown).holds
  exact eq_ok_of_forM hcheck r r.mem_all

/-- What was built is the envelope that its parts ask for. -/
theorem drafted_of_build {p : Parts} {e : Envelope} (hbuild : build p = .ok e) : Drafted p e := by
  obtain ⟨e', hbuild', hdrafted⟩ :=
    exists_drafted (not_overlong_of_build hbuild) (met_of_build hbuild)
  rw [hbuild] at hbuild'
  exact Except.ok.inj hbuild' ▸ hdrafted

/-- If the conditions before one are met and its check fails, so does the building. -/
theorem build_eq_error {p : Parts} {before after : List Requirement} {r : Requirement}
    {e : Rejection} (hall : Requirement.all = before ++ r :: after)
    (hlength : ∀ q ∈ before, q = .amount → ¬ Amount.Overlong p.transfer.amount)
    (hbefore : ∀ q ∈ before, Requirement.Met p q) (hfails : Requirement.test p r = .error e) :
    build p = .error e := by
  have hcheck : check p = .error e := by
    rw [check_eq_forM, hall]
    refine forM_eq_error (fun q hq => ?_) hfails
    refine (Requirement.decides_test (hlength q hq) ?_).eq_ok (hbefore q hq)
    rintro rfl
    exact .of_met (hbefore _ hq)
  exact bind_eq_error_iff.mpr (.inl hcheck)

section OthersMet

variable {p : Parts} (hothers : ∀ r, r ≠ .amount → Requirement.Met p r)

include hothers

/-- Where all conditions but that of the amount are met, an amount that is refused is what the
building fails for. -/
theorem build_eq_error_of_amount {e : Rejection}
    (hfails : checkAmount p.transfer.amount = .error e) :
    build p = .error e := by
  have hall : Requirement.all = [.network, .source, .owner, .sequence, .destination, .assetCode,
      .issuer] ++ .amount :: [.memo] := rfl
  refine build_eq_error hall ?_ ?_ hfails
  · rintro q hq rfl
    simp at hq
  · intro q hq
    refine hothers q ?_
    rintro rfl
    simp at hq

/-- Where all other conditions are met, a valid amount is built. -/
theorem build_of_valid (hlength : ¬ Amount.Overlong p.transfer.amount)
    (hvalid : Amount.Valid p.transfer.amount) : ∃ e, build p = .ok e ∧ Drafted p e := by
  refine exists_drafted hlength fun r => ?_
  by_cases hr : r = .amount
  · rw [hr]
    exact hvalid
  · exact hothers r hr

/-- Where all other conditions are met, an amount that is not valid is named. -/
theorem build_of_not_valid (hlength : ¬ Amount.Overlong p.transfer.amount)
    (hinvalid : ¬ Amount.Valid p.transfer.amount) :
    ∃ f : Fault, build p = .error (.fault f) ∧ f.code = .amount := by
  obtain ⟨f, hfails, hcode⟩ := (decides_checkAmount hlength).exists_fault hinvalid
  exact ⟨f, build_eq_error_of_amount hothers hfails, hcode⟩

/-- Where all other conditions are met, an overlong amount is refused for its digits. -/
theorem build_of_overlong (hlong : Amount.Overlong p.transfer.amount) :
    ∃ e, build p = .error (.digits e) := by
  obtain ⟨e, hparse⟩ := Amount.parse_of_overlong hlong
  refine ⟨e, build_eq_error_of_amount hothers ?_⟩
  rw [checkAmount, hparse]
  rfl

end OthersMet

/-- Parts of a payment of nothing, in an asset whose code is empty and that nobody issues. -/
def voidParts : Parts :=
  let key : Key := ⟨List.replicate 32 0, List.length_replicate⟩
  ⟨"test", key.accountId, ⟨key.accountId, 0⟩, .payment key.accountId "0" (.credit "" ""), .none,
    100, none⟩

/-- Parts of a payment from an account with a sequence number. -/
def partsAt (sequence : Int) : Parts :=
  let key : Key := ⟨List.replicate 32 0, List.length_replicate⟩
  ⟨"test", key.accountId, ⟨key.accountId, sequence⟩, .payment key.accountId "1" .native, .none, 100,
    none⟩

/-- Before the sequence number nothing is at fault in such parts. -/
theorem met_before_sequence (sequence : Int) :
    ∀ q ∈ [Requirement.network, .source, .owner], Requirement.Met (partsAt sequence) q := by
  have hnetwork : Requirement.Met (partsAt sequence) .network := by
    show "test" ≠ ""
    decide
  simpa [hnetwork] using (⟨⟨_, rfl⟩, rfl⟩ : Requirement.Met (partsAt sequence) .source ∧
    Requirement.Met (partsAt sequence) .owner)

/-- A power of ten has more digits than its exponent says. -/
theorem lt_length_digits_pow {k : Nat} (hk : 0 < k) :
    ¬ (Numeral.digits ((10 : Int) ^ k).natAbs).length ≤ k := by
  rw [Int.natAbs_pow, Numeral.length_digits_le_iff hk]
  exact Nat.lt_irrefl _

end Build

end Remittance
