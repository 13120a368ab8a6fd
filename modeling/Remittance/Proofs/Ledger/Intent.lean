import Remittance.Proofs.Ledger.Canonical
import Remittance.Proofs.Ledger.Envelope
import Remittance.Proofs.Ledger.Requirement
import Remittance.Proofs.Text.Base64

/-!
# What a signature stands for

A signature is made over the hash of a network and the octets of a transaction. The octets of a
transaction that was built are read back as that transaction, so nothing that its parts ask for is
lost in them. Hence two signatures are made over the same octets only if the networks and the parts
are the same, up to how an amount is spelt and to whether open time bounds are given or left out.
-/

set_option autoImplicit false

namespace Remittance

/-- The fee and the time bounds fit their words on the wire. -/
structure Parts.Fit (p : Parts) : Prop where
  fee : 0 ≤ p.baseFee ∧ p.baseFee < 2 ^ 32
  bounds : ∀ t, p.bounds = some t → t.min < 2 ^ 64 ∧ t.max < 2 ^ 64

/-- Whether an account is to be created. -/
def Transfer.isCreation : Transfer → Bool
  | .createAccount .. => true
  | .payment .. => false

/-- The parts of two transactions ask for the same. -/
structure Parts.SameIntent (p p' : Parts) : Prop where
  source : p.source = p'.source
  sequence : p.snapshot.sequence = p'.snapshot.sequence
  fee : p.baseFee = p'.baseFee
  bounds : p.bounds.getD .always = p'.bounds.getD .always
  memo : p.memo = p'.memo
  kind : p.transfer.isCreation = p'.transfer.isCreation
  destination : p.transfer.destination = p'.transfer.destination
  asset : p.transfer.asset = p'.transfer.asset
  amount : Amount.parse p.transfer.amount = Amount.parse p'.transfer.amount

/-- The units that an action moves from the source to the account that it names. -/
def Action.units? {A : Type} : Action A → Option Int64
  | .createAccount _ n => some n
  | .payment _ _ n => some n
  | _ => none

/-- The memo of a request that has the given form on the ledger. -/
def LedgerMemo.asked? : LedgerMemo → Option Memo
  | .none => some .none
  | .text octets => some (.text octets.val)
  | .id value => some (.id value)
  | .hash octets => some (.hash octets)
  | .returnHash _ => Option.none

/-- The memo that was asked for is seen in its form on the ledger. -/
theorem Memo.asked?_of_toLedger? {m : Memo} {l : LedgerMemo} (hm : m.toLedger? = some l) :
    l.asked? = some m := by
  cases m with
  | text octets =>
    rw [toLedger?] at hm
    split at hm <;> cases hm
    rfl
  | _ =>
    cases hm
    rfl

/-- An asset that was asked for is one asset of the ledger. -/
theorem Names.unique {asset : Asset} {a a' : LedgerAsset} (hnames : Names asset a)
    (hnames' : Names asset a') : a = a' := by
  generalize hasset : asset = asset' at hnames'
  cases hnames with
  | native =>
    cases hnames' with
    | native => rfl
    | credit => cases hasset
  | credit code issuer =>
    cases hnames' with
    | native => cases hasset
    | credit code' issuer' =>
      injection hasset with hcode hissuer
      have hchars := String.ofList_injective (Text.ofString_inj.mp hcode)
      rw [Subtype.ext hchars, Key.accountId_injective (Text.ofString_inj.mp hissuer)]

/-- An asset of the ledger was asked for in one way. -/
theorem Names.injective {asset asset' : Asset} {a : LedgerAsset} (hnames : Names asset a)
    (hnames' : Names asset' a) : asset = asset' := by
  cases hnames <;> cases hnames' <;> rfl

/-- The word for an amount counts the units that the amount is read as. -/
theorem Counts.toInt_eq {amount : Text} {n : Int64} {units : Nat} (hcounts : Counts amount n)
    (hparse : Amount.parse amount = .ok units) : n.toInt = units := by
  obtain ⟨whole, part, hplain, hn⟩ := hcounts
  obtain ⟨whole', part', hplain', hunits, -, -⟩ := Amount.parse_eq_ok hparse
  obtain ⟨rfl, rfl⟩ := hplain.unique hplain'
  have hcast : ((n.toInt : Int) : ℚ) = ((units : Int) : ℚ) := by
    rw [hn, hunits, ← Amount.units_eq_number hplain.part_length]
    norm_cast
  exact_mod_cast hcast

section Transfers

variable {transfer transfer' : Transfer} {action action' : Action LedgerAsset}

/-- An action that does what a transfer asks for moves the amount of the transfer. -/
theorem Does.units (hdoes : Does transfer action) :
    ∃ n, action.units? = some n ∧ Counts transfer.amount n := by
  cases hdoes with
  | createAccount destination amount n hcounts => exact ⟨n, rfl, hcounts⟩
  | payment destination amount asset admitted n hasset hcounts => exact ⟨n, rfl, hcounts⟩

/-- The ledger makes sense of an action that does what a transfer asks for. -/
theorem Does.isSound (hdoes : Does transfer action) : action.isSound = true := by
  cases hdoes with
  | createAccount destination amount n hcounts => simpa [Action.isSound] using hcounts.nonneg
  | payment destination amount asset admitted n hasset hcounts =>
    simpa [Action.isSound] using hcounts.nonneg

/-- An action that does what a transfer asks for is of a known kind. -/
theorem Does.foreign?_eq_none (hdoes : Does transfer action) : action.foreign? = none := by
  cases hdoes <;> rfl

/-- Two transfers are the same action exactly if they agree in all but how the amount is spelt. -/
theorem Does.action_eq_iff {n n' : Nat} (hdoes : Does transfer action)
    (hdoes' : Does transfer' action') (hparse : Amount.parse transfer.amount = .ok n)
    (hparse' : Amount.parse transfer'.amount = .ok n') :
    action = action' ↔ transfer.isCreation = transfer'.isCreation ∧
      transfer.destination = transfer'.destination ∧ transfer.asset = transfer'.asset ∧ n = n' := by
  cases hdoes with
  | createAccount key amount m hcounts =>
    have hm := hcounts.toInt_eq hparse
    cases hdoes' with
    | createAccount key' amount' m' hcounts' =>
      have hm' := hcounts'.toInt_eq hparse'
      constructor
      · intro heq
        injection heq with hkey hcount
        rw [hcount, hm'] at hm
        exact ⟨rfl, congrArg (fun key => (key.accountId : Text)) hkey, rfl, by omega⟩
      · rintro ⟨-, hdestination, -, rfl⟩
        have hsame := Text.ofString_inj.mp hdestination
        rw [Key.accountId_injective hsame, Int64.toInt_inj.mp (hm.trans hm'.symm)]
    | payment => simp [Transfer.isCreation]
  | payment key amount asset a m hnames hcounts =>
    have hm := hcounts.toInt_eq hparse
    cases hdoes' with
    | createAccount => simp [Transfer.isCreation]
    | payment key' amount' asset' a' m' hnames' hcounts' =>
      have hm' := hcounts'.toInt_eq hparse'
      constructor
      · intro heq
        injection heq with hparty hasset hcount
        have hkey : key = key' := congrArg Party.key hparty
        rw [hcount, hm'] at hm
        subst hasset
        exact ⟨rfl, congrArg (fun key => (key.accountId : Text)) hkey, hnames.injective hnames',
          by omega⟩
      · rintro ⟨-, hdestination, hasset, rfl⟩
        obtain rfl : asset = asset' := hasset
        have hsame := Text.ofString_inj.mp hdestination
        rw [Key.accountId_injective hsame, Int64.toInt_inj.mp (hm.trans hm'.symm),
          hnames.unique hnames']

end Transfers

section Drafts

variable {p p' : Parts} {e e' : Envelope}

/-- The ledger makes sense of a transaction that was built of parts whose fee and bounds fit. -/
theorem Drafted.isSound (hdrafted : Drafted p e) (hfit : p.Fit) : e.transaction.IsSound := by
  obtain ⟨action, haction, hdoes⟩ := hdrafted.operation
  constructor
  · rw [hdrafted.conditions]
    show (p.bounds.getD .always).Fits
    cases hbounds : p.bounds with
    | none => exact ⟨by decide, by decide⟩
    | some t => exact hfit.bounds t hbounds
  · intro op hop
    rw [haction, List.mem_singleton] at hop
    subst hop
    exact hdoes.isSound

/-- A transaction that was built has parts of known kinds only. -/
theorem Drafted.known (hdrafted : Drafted p e) (f : Wire.Foreign) : e.transaction.Known f := by
  obtain ⟨action, haction, hdoes⟩ := hdrafted.operation
  constructor
  · intro op hop part hpart
    rw [haction, List.mem_singleton] at hop
    subst hop
    rw [hdoes.foreign?_eq_none] at hpart
    cases hpart
  · intro part hpart
    rw [hdrafted.ending] at hpart
    cases hpart

/-- Two transactions that were built are the same exactly if the same was asked for. -/
theorem Drafted.transaction_eq_iff {n n' : Nat} (hdrafted : Drafted p e)
    (hdrafted' : Drafted p' e') (hparse : Amount.parse p.transfer.amount = .ok n)
    (hparse' : Amount.parse p'.transfer.amount = .ok n') :
    e.transaction = e'.transaction ↔ p.SameIntent p' := by
  obtain ⟨key, hkey, hsource⟩ := hdrafted.source
  obtain ⟨key', hkey', hsource'⟩ := hdrafted'.source
  obtain ⟨action, haction, hdoes⟩ := hdrafted.operation
  obtain ⟨action', haction', hdoes'⟩ := hdrafted'.operation
  have hactions := hdoes.action_eq_iff hdoes' hparse hparse'
  constructor
  · intro heq
    have hsame : action = action' := by
      rw [heq, haction'] at haction
      simpa using haction.symm
    obtain ⟨hkind, hdestination, hasset, hunits⟩ := hactions.mp hsame
    refine ⟨?_, ?_, ?_, ?_, ?_, hkind, hdestination, hasset, by rw [hparse, hparse', hunits]⟩
    · rw [heq, hkey'] at hkey
      have hkey : key' = key := congrArg Party.key hkey
      rw [← hsource, ← hsource', hkey]
    · have hsequence := hdrafted.sequence
      rw [heq, hdrafted'.sequence] at hsequence
      omega
    · rw [← hdrafted.fee, ← hdrafted'.fee, heq]
    · have hconditions := hdrafted.conditions
      rw [heq, hdrafted'.conditions] at hconditions
      injection hconditions with hbounds
      exact hbounds.symm
    · have hmemo := hdrafted.memo
      rw [heq] at hmemo
      have hasked := Memo.asked?_of_toLedger? hmemo
      rw [Memo.asked?_of_toLedger? hdrafted'.memo] at hasked
      exact (Option.some.inj hasked).symm
  · intro hsame
    have hunits : n = n' := by
      have hamount := hsame.amount
      rw [hparse, hparse'] at hamount
      exact Except.ok.inj hamount
    have hboth := hsource.trans (hsame.source.trans hsource'.symm)
    have hparty : e.transaction.source = e'.transaction.source := by
      rw [hkey, hkey', Key.accountId_injective (Text.ofString_inj.mp hboth)]
    have hfee : e.transaction.fee = e'.transaction.fee := by
      rw [hdrafted.fee, hdrafted'.fee, hsame.fee]
    have hsequence : e.transaction.sequence = e'.transaction.sequence := by
      apply Int64.toInt_inj.mp
      rw [hdrafted.sequence, hdrafted'.sequence, hsame.sequence]
    have hconditions : e.transaction.conditions = e'.transaction.conditions := by
      rw [hdrafted.conditions, hdrafted'.conditions, hsame.bounds]
    have hmemo : e.transaction.memo = e'.transaction.memo := by
      have hmemo := hdrafted.memo
      rw [hsame.memo, hdrafted'.memo] at hmemo
      exact (Option.some.inj hmemo).symm
    have hoperations : e.transaction.operations = e'.transaction.operations := by
      apply Subtype.ext
      rw [haction, haction',
        hactions.mpr ⟨hsame.kind, hsame.destination, hsame.asset, hunits⟩]
    have hending : e.transaction.ending = e'.transaction.ending := by
      rw [hdrafted.ending, hdrafted'.ending]
    cases ht : e.transaction
    cases ht' : e'.transaction
    simp_all

end Drafts

namespace Envelope

/-- What is hashed is the same exactly if the hashes of the networks and the octets of the
transactions are. -/
theorem payload_eq_iff {network network' : String} {b b' : Octets} :
    payload network b = payload network' b' ↔
      Sha2.sha256 (Octets.ofText network) = Sha2.sha256 (Octets.ofText network') ∧ b = b' := by
  constructor
  · intro heq
    rw [payload, payload, List.append_assoc, List.append_assoc] at heq
    obtain ⟨hnetwork, hrest⟩ := List.append_inj heq
      ((Sha2.length_sha256 _).trans (Sha2.length_sha256 _).symm)
    exact ⟨hnetwork, List.append_cancel_left hrest⟩
  · rintro ⟨hnetwork, rfl⟩
    rw [payload, payload, hnetwork]

end Envelope

/-- The octets of a transaction that was built of parts whose fee and bounds fit: they are what is
signed, and they are read back as the transaction that the parts ask for. -/
theorem Build.exists_encoded {p : Parts} {e : Envelope} (hfit : p.Fit) (hbuild : build p = .ok e) :
    ∃ b, e.transaction.encode? = some b ∧ ∀ f : Wire.Foreign, f.Lawful →
      Envelope.ofTransactionText? f (Base64.encode b) p.network = some e := by
  have hdrafted := drafted_of_build hbuild
  have hfee : 0 ≤ e.transaction.fee ∧ e.transaction.fee < 2 ^ 32 := by
    rw [hdrafted.fee]
    exact hfit.fee
  obtain ⟨b, hb⟩ := Option.isSome_iff_exists.mp (Transaction.isSome_encode?_iff.mpr hfee)
  refine ⟨b, hb, fun f hf => ?_⟩
  have hbare : e = .unsigned e.transaction p.network := by
    rw [← hdrafted.network]
    obtain ⟨transaction, network, signatures⟩ := e
    obtain rfl : signatures = [] := hdrafted.unsigned
    rfl
  have hread := (hdrafted.isSound hfit).decode?_encode hf (hdrafted.known f) hb
  exact Envelope.ofTransactionText?_eq_some_iff.mpr
    ⟨b, _, Envelope.spelt?_encode b, hread, hbare⟩

/-- What is built of parts whose fee and bounds fit is read back from its octets as the very
envelope that was built, however parts of unknown kinds would be read, and that envelope is the one
that the parts ask for and moves as many units as the amount is read as. The octets that are hashed
to sign two such envelopes are the same exactly if the networks have the same hash and the same was
asked for. -/
theorem Build.signed_alike_iff {p p' : Parts} {e e' : Envelope} (hfit : p.Fit) (hfit' : p'.Fit)
    (hbuild : build p = .ok e) (hbuild' : build p' = .ok e') :
    ∃ b b', e.transaction.encode? = some b ∧ e'.transaction.encode? = some b' ∧
      e.hash = .ok (Sha2.sha256 (Envelope.payload p.network b)) ∧
      e'.hash = .ok (Sha2.sha256 (Envelope.payload p'.network b')) ∧
      (∀ f : Wire.Foreign, f.Lawful →
        Envelope.ofTransactionText? f (Base64.encode b) p.network = some e) ∧ Drafted p e ∧
      (∃ op n, e.transaction.operations.val = [op] ∧ Amount.parse p.transfer.amount = .ok n ∧
        op.action.units?.map Int64.toInt = some (n : Int)) ∧
      (Envelope.payload p.network b = Envelope.payload p'.network b' ↔
        Sha2.sha256 (Octets.ofText p.network) = Sha2.sha256 (Octets.ofText p'.network) ∧
          p.SameIntent p') := by
  have hdrafted := drafted_of_build hbuild
  have hdrafted' := drafted_of_build hbuild'
  obtain ⟨b, hb, hread⟩ := exists_encoded hfit hbuild
  obtain ⟨b', hb', -⟩ := exists_encoded hfit' hbuild'
  obtain ⟨_, hcheck, -⟩ := bind_eq_ok_iff.mp hbuild
  obtain ⟨_, hcheck', -⟩ := bind_eq_ok_iff.mp hbuild'
  obtain ⟨n, hparse⟩ := (checked_of_check hcheck).amount
  obtain ⟨n', hparse'⟩ := (checked_of_check hcheck').amount
  have hoctets : b = b' ↔ e.transaction = e'.transaction := by
    constructor
    · rintro rfl
      exact (hdrafted.isSound hfit).encode?_injective Wire.Foreign.lawful_none (hdrafted.known _)
        (hdrafted'.isSound hfit') (hdrafted'.known _) hb hb'
    · intro heq
      rw [heq, hb'] at hb
      exact (Option.some.inj hb).symm
  refine ⟨b, b', hb, hb', ?_, ?_, hread, hdrafted, ?_, ?_⟩
  · rw [Envelope.hash, hb, hdrafted.network]
  · rw [Envelope.hash, hb', hdrafted'.network]
  · obtain ⟨action, haction, hdoes⟩ := hdrafted.operation
    obtain ⟨units, hunits, hcounts⟩ := hdoes.units
    refine ⟨⟨none, action⟩, n, haction, hparse, ?_⟩
    rw [hunits, Option.map_some, hcounts.toInt_eq hparse]
  · rw [Envelope.payload_eq_iff, hoctets, hdrafted.transaction_eq_iff hdrafted' hparse hparse']

/-- A payment of the native asset without a memo is built, if its amount is one. -/
theorem Build.exists_native {network : String} {amount : Text} {key destination : Key}
    {sequence fee : Int}
    {bounds : Option TimeBounds} {n : Nat} (hnetwork : network ≠ "")
    (hsequence : 0 ≤ sequence ∧ sequence ≤ 2 ^ 63 - 2) (hparse : Amount.parse amount = .ok n) :
    ∃ e, build ⟨network, key.accountId, ⟨key.accountId, sequence⟩,
      .payment destination.accountId amount .native, .none, fee, bounds⟩ = .ok e := by
  have hlength : ¬ Amount.Overlong amount := by
    intro hlong
    obtain ⟨failure, hfails⟩ := Amount.parse_of_overlong hlong
    rw [hparse] at hfails
    cases hfails
  have hvalid : Amount.Valid amount := by
    rcases Amount.parse_of_not_overlong hlength with ⟨hvalid, -⟩ | ⟨-, hfails⟩
    · exact hvalid
    · rw [hparse] at hfails
      rcases hfails with hfails | hfails <;> cases hfails
  obtain ⟨e, hbuild, -⟩ := @exists_drafted ⟨network, key.accountId, ⟨key.accountId, sequence⟩,
    .payment destination.accountId amount .native, .none, fee, bounds⟩ hlength fun r => by
      cases r with
      | network => exact hnetwork
      | source => exact ⟨key, rfl⟩
      | owner => rfl
      | sequence => exact hsequence
      | destination => exact ⟨destination, rfl⟩
      | assetCode => exact nofun
      | issuer => exact nofun
      | amount => exact hvalid
      | memo => exact nofun
  exact ⟨e, hbuild⟩

/-- The parts of a payment of the native asset to oneself, of some amount. -/
def nativeParts (amount : Text) : Parts :=
  let key : Key := Block.fill 32 []
  ⟨"test", key.accountId, ⟨key.accountId, 0⟩, .payment key.accountId amount .native, .none, 100,
    none⟩

/-- One unit is signed alike if its amount is spelt with a point, but not two units. -/
theorem Build.units_signed : ∃ e e' e'' b b' b'',
    build (nativeParts "1") = .ok e ∧ build (nativeParts "1.0") = .ok e' ∧
    build (nativeParts "2") = .ok e'' ∧ e.transaction.encode? = some b ∧
    e'.transaction.encode? = some b' ∧ e''.transaction.encode? = some b'' ∧
    Envelope.payload "test" b = Envelope.payload "test" b' ∧
    Envelope.payload "test" b ≠ Envelope.payload "test" b'' := by
  have hone : Amount.parse "1" = .ok 10000000 := by decide +kernel
  have hpoint : Amount.parse "1.0" = .ok 10000000 := by decide +kernel
  have htwo : Amount.parse "2" = .ok 20000000 := by decide +kernel
  have hbuilds : ∀ {amount n}, Amount.parse amount = .ok n →
      ∃ e, build (nativeParts amount) = .ok e :=
    exists_native (by decide : "test" ≠ "") (by decide)
  have hfit : ∀ amount, (nativeParts amount).Fit := by
    intro amount
    refine ⟨(by decide : (0 : Int) ≤ 100 ∧ (100 : Int) < 2 ^ 32), ?_⟩
    intro t ht
    cases ht
  obtain ⟨e, hbuild⟩ := hbuilds hone
  obtain ⟨e', hbuild'⟩ := hbuilds hpoint
  obtain ⟨e'', hbuild''⟩ := hbuilds htwo
  obtain ⟨b, b', hb, hb', -, -, -, -, -, halike⟩ :=
    signed_alike_iff (hfit "1") (hfit "1.0") hbuild hbuild'
  obtain ⟨_, b'', hb₁, hb'', -, -, -, -, -, hother⟩ :=
    signed_alike_iff (hfit "1") (hfit "2") hbuild hbuild''
  cases hb.symm.trans hb₁
  refine ⟨e, e', e'', b, b', b'', hbuild, hbuild', hbuild'', hb, hb', hb'', ?_, ?_⟩
  · exact halike.mpr ⟨rfl, rfl, rfl, rfl, rfl, rfl, rfl, rfl, rfl, hone.trans hpoint.symm⟩
  · intro heq
    have hamount := (hother.mp heq).2.amount
    have hunits : Amount.parse "1" = Amount.parse "2" := hamount
    rw [hone, htwo] at hunits
    cases hunits

end Remittance
