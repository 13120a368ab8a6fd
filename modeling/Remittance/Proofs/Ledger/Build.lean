import Remittance.Ledger.Build
import Remittance.Proofs.Computation
import Remittance.Proofs.Ledger.Amount
import Remittance.Proofs.Ledger.Key
import Remittance.Proofs.Ledger.Wire

/-!
# What is built

A transaction that was built says on the wire what its parts say: the accounts by their keys, the
amount as an exact number of units, the asset, the memo, the fee and the next sequence number. Only
of time bounds that do not fit the wire is something lost.
-/

set_option autoImplicit false

namespace Remittance

/-- A word of the wire counts the number that the text of an amount spells, in units of 10^-7. -/
def Counts (amount : Text) (n : Int64) : Prop :=
  ∃ whole part, Amount.Plain amount whole part ∧
    ((n.toInt : Int) : ℚ) = Amount.number whole part * 10 ^ 7

/-- An asset of the wire is the one that was asked for. -/
inductive OnWire : Asset → Wire.Asset → Prop where
  | native : OnWire .native .native
  | short (code : AssetCode) (issuer : Key) (hlength : code.val.length ≤ 4) :
    OnWire (.credit (String.ofList code.val) issuer.accountId)
      (.short (Block.fill 4 code.octets) issuer)
  | long (code : AssetCode) (issuer : Key) (hlength : 4 < code.val.length) :
    OnWire (.credit (String.ofList code.val) issuer.accountId)
      (.long (Block.fill 12 code.octets) issuer)

/-- An action of the wire does what a transfer asks for. -/
inductive Carries : Transfer → Action Wire.Asset → Prop where
  | createAccount (destination : Key) (amount : Text) (n : Int64) (hcounts : Counts amount n) :
    Carries (.createAccount destination.accountId amount) (.createAccount destination n)
  | payment (destination : Key) (amount : Text) (asset : Asset) (onWire : Wire.Asset) (n : Int64)
      (hasset : OnWire asset onWire) (hcounts : Counts amount n) :
    Carries (.payment destination.accountId amount asset)
      (.payment (Party.ofKey destination) onWire n)

/-- A transaction of the wire says what the parts of a payment say. -/
structure Written (parts : Parts) (w : Wire.Transaction) : Prop where
  source : ∃ key : Key, w.source = Party.ofKey key ∧ key.accountId = parts.source
  fee : (w.fee.toNat : Int) = parts.baseFee
  sequence : w.sequence.toInt = parts.snapshot.sequence + 1
  conditions : w.conditions = .time (parts.bounds.getD .always).toWire
  memo : parts.memo.toLedger? = some w.memo
  operation : ∃ action, w.operations.val = [⟨none, action⟩] ∧ Carries parts.transfer action
  ending : w.ending = none

/-- An action that does what a transfer asks for is of a known kind. -/
theorem Carries.foreign?_eq_none {transfer : Transfer} {action : Action Wire.Asset}
    (hcarries : Carries transfer action) : action.foreign? = none := by
  cases hcarries <;> rfl

/-- A transaction that says what the parts of a payment say has parts of known kinds only. -/
theorem Written.isNative {parts : Parts} {w : Wire.Transaction} (hwritten : Written parts w) :
    w.IsNative := by
  obtain ⟨action, hoperations, hcarries⟩ := hwritten.operation
  refine ⟨fun op hop => ?_, hwritten.ending⟩
  rw [hoperations, List.mem_singleton] at hop
  subst hop
  exact hcarries.foreign?_eq_none

/-- A text gives an asset code exactly if it is the text of that code. -/
theorem AssetCode.ofText?_eq_some_iff {t : Text} {code : AssetCode} :
    ofText? t = some code ↔ t = String.ofList code.val := by
  unfold ofText?
  constructor
  · intro hread
    obtain ⟨s, hs, hrest⟩ := Option.bind_eq_some_iff.mp hread
    obtain rfl := Text.string?_eq_some_iff.mp hs
    split at hrest
    · cases hrest
      rw [String.ofList_toList]
    · cases hrest
  · rintro rfl
    rw [Text.string?_ofString, Option.bind_eq_bind, Option.bind_some]
    simp only [String.toList_ofList]
    rw [dif_pos code.property]

namespace Build

/-- A requirement passes exactly if its condition holds. -/
theorem require_eq_ok_iff {condition : Bool} {f : Fault} {u : Unit} :
    require condition f = .ok u ↔ condition = true := by
  unfold require
  cases condition <;> simp

/-- What the check of all parts lets through. -/
structure Checked (p : Parts) : Prop where
  sequence : 0 ≤ p.snapshot.sequence ∧ p.snapshot.next ≤ maxSequence
  destination : isAccountId p.transfer.destination = true
  amount : ∃ n, Amount.parse p.transfer.amount = .ok n

/-- What passes the check of all parts has a sequence number in range, the account id of a
destination, and an amount. -/
theorem checked_of_check {p : Parts} (hcheck : check p = .ok ()) : Checked p := by
  unfold check at hcheck
  obtain ⟨_, _, hcheck⟩ := bind_eq_ok_iff.mp hcheck
  obtain ⟨_, _, hcheck⟩ := bind_eq_ok_iff.mp hcheck
  obtain ⟨_, _, hcheck⟩ := bind_eq_ok_iff.mp hcheck
  obtain ⟨_, hsequence, hcheck⟩ := bind_eq_ok_iff.mp hcheck
  obtain ⟨_, hdestination, hcheck⟩ := bind_eq_ok_iff.mp hcheck
  obtain ⟨_, _, hcheck⟩ := bind_eq_ok_iff.mp hcheck
  obtain ⟨_, hamount, _⟩ := bind_eq_ok_iff.mp hcheck
  refine ⟨?_, require_eq_ok_iff.mp hdestination, ?_⟩
  · unfold checkSequence at hsequence
    split at hsequence
    · assumption
    · split at hsequence <;> cases hsequence
  · unfold checkAmount at hamount
    split at hamount
    · rename_i n hparse
      exact ⟨n, hparse⟩
    · cases hamount

/-- The word for an amount that the ledger admits counts what its text says. -/
theorem counts_of_amount {text : Text} {role : Admission.AmountRole} {n m : Nat}
    (hparse : Amount.parse text = .ok n) (hadmitted : Admission.amount role text = .ok m) :
    Counts text (Int64.ofNat m) := by
  rw [Admission.amount_of_parse role hparse] at hadmitted
  cases hadmitted
  obtain ⟨whole, part, hplain, hunits, hpos, hmax⟩ := Amount.parse_eq_ok hparse
  refine ⟨whole, part, hplain, ?_⟩
  have hexact : (Int64.ofNat n).toInt = n := by
    apply Int64.toInt_ofNat_of_lt
    rw [Amount.maximum] at hmax
    omega
  rw [hexact, hunits]
  exact Amount.units_eq_number hplain.part_length

/-- The ledger's form of an asset is the asset that was asked for. -/
theorem onWire_of_ledgerAsset {asset : Asset} {a : LedgerAsset}
    (hasset : ledgerAsset asset = .ok a) : OnWire asset a.toWire := by
  cases asset with
  | native =>
    cases hasset
    exact .native
  | credit code issuer =>
    have hadmitted : Admission.asset code issuer = .ok a := hasset
    unfold Admission.asset at hadmitted
    split at hadmitted
    · cases hadmitted
    · rename_i c hcode
      split at hadmitted
      · cases hadmitted
      · rename_i key hissuer
        cases hadmitted
        obtain rfl := Key.ofAccountId?_eq_some_iff.mp hissuer
        obtain rfl := AssetCode.ofText?_eq_some_iff.mp hcode
        show OnWire _ (if c.isShort then .short (Block.fill 4 c.octets) key
          else .long (Block.fill 12 c.octets) key)
        split
        · rename_i hshort
          exact .short c key (by simpa [AssetCode.isShort] using hshort)
        · rename_i hlong
          exact .long c key (by simpa [AssetCode.isShort] using hlong)

/-- A party that is named by an account id is the account of its key. -/
theorem party_of_accountId {destination : Text} {party : Party}
    (hid : isAccountId destination = true) (hparty : Admission.party destination = .ok party) :
    ∃ key : Key, destination = key.accountId ∧ party = Party.ofKey key := by
  obtain ⟨key, hkey⟩ := Option.isSome_iff_exists.mp hid
  refine ⟨key, Key.ofAccountId?_eq_some_iff.mp hkey, ?_⟩
  unfold Admission.party Party.ofText? at hparty
  rw [hkey] at hparty
  cases hparty
  rfl

/-- An account is admitted by the account id of its key. -/
theorem key_of_account {text : Text} {key : Key} (hkey : Admission.account text = .ok key) :
    text = key.accountId := by
  unfold Admission.account at hkey
  split at hkey
  · cases hkey
  · rename_i key' hread
    cases hkey
    exact Key.ofAccountId?_eq_some_iff.mp hread

/-- The action of the ledger for a transfer that was checked does what the transfer asks for. -/
theorem carries_of_ledgerAction {transfer : Transfer} {action : Action LedgerAsset}
    {onWire : Action Wire.Asset} (hid : isAccountId transfer.destination = true)
    (hamount : ∃ n, Amount.parse transfer.amount = .ok n)
    (haction : ledgerAction transfer = .ok action)
    (hwire : action.mapAssets? (fun a => some a.toWire) = some onWire) :
    Carries transfer onWire := by
  obtain ⟨n, hparse⟩ := hamount
  cases transfer with
  | createAccount destination amount =>
    obtain ⟨key, hkey, hrest⟩ := bind_eq_ok_iff.mp haction
    obtain ⟨m, hadmitted, hend⟩ := bind_eq_ok_iff.mp hrest
    cases hend
    cases hwire
    obtain rfl := key_of_account hkey
    exact .createAccount key amount _ (counts_of_amount hparse hadmitted)
  | payment destination amount asset =>
    obtain ⟨a, hasset, hrest⟩ := bind_eq_ok_iff.mp haction
    obtain ⟨party, hparty, hrest⟩ := bind_eq_ok_iff.mp hrest
    obtain ⟨m, hadmitted, hend⟩ := bind_eq_ok_iff.mp hrest
    cases hend
    cases hwire
    obtain ⟨key, rfl, rfl⟩ := party_of_accountId hid hparty
    exact .payment key amount asset _ _ (onWire_of_ledgerAsset hasset)
      (counts_of_amount hparse hadmitted)

/-- A transaction that fits the wire has its operations there, one for one. -/
theorem toWire?_eq_some {t : Transaction} {w : Wire.Transaction} (hwire : t.toWire? = some w) :
    w.source = t.source ∧ (w.fee.toNat : Int) = t.fee ∧ w.sequence = t.sequence ∧
      w.conditions = t.conditions.toWire ∧ w.memo = t.memo ∧ w.ending = t.ending ∧
      allSome (fun op => op.mapAssets? fun a => some a.toWire) t.operations.val =
        some w.operations.val := by
  unfold Transaction.toWire? at hwire
  obtain ⟨operations, hoperations, hrest⟩ := Option.bind_eq_some_iff.mp hwire
  split at hrest
  · rename_i hfee
    cases hrest
    refine ⟨rfl, ?_, rfl, rfl, rfl, rfl, ?_⟩
    · have hsmall : t.fee.toNat < 2 ^ 32 := by omega
      show ((UInt32.ofNat t.fee.toNat).toNat : Int) = t.fee
      rw [UInt32.toNat_ofNat_of_lt' hsmall]
      omega
    · unfold allSomeUpTo at hoperations
      split at hoperations
      · cases hoperations
      · rename_i m hall
        cases hoperations
        exact hall
  · cases hrest

/-- What was built is not signed yet. -/
theorem unsigned_of_build {parts : Parts} {e : Envelope} (hbuild : build parts = .ok e) :
    e.signatures = [] := by
  unfold build at hbuild
  obtain ⟨_, _, hrest⟩ := bind_eq_ok_iff.mp hbuild
  split at hrest
  · cases hrest
    rfl
  · cases hrest

/-- What was built of parts says on the wire what the parts say. -/
theorem written_of_build {parts : Parts} {e : Envelope} {w : Wire.Transaction}
    (hbuild : build parts = .ok e) (hwire : e.transaction.toWire? = some w) :
    Written parts w ∧ e.network = parts.network := by
  unfold build at hbuild
  obtain ⟨_, hcheck, hrest⟩ := bind_eq_ok_iff.mp hbuild
  have hchecked := checked_of_check hcheck
  split at hrest
  · rename_i t hassemble
    cases hrest
    obtain ⟨source, hsource, hassemble⟩ := bind_eq_ok_iff.mp hassemble
    obtain ⟨action, haction, hassemble⟩ := bind_eq_ok_iff.mp hassemble
    obtain ⟨memo, hmemo, hassemble⟩ := bind_eq_ok_iff.mp hassemble
    cases hassemble
    obtain ⟨hwsource, hfee, hsequence, hconditions, hwmemo, hending, hoperations⟩ :=
      toWire?_eq_some hwire
    refine ⟨⟨⟨source, hwsource, (key_of_account hsource).symm⟩, hfee, ?_, hconditions, ?_, ?_,
      hending⟩, rfl⟩
    · obtain ⟨hlow, hhigh⟩ := hchecked.sequence
      rw [Snapshot.next, maxSequence] at hhigh
      rw [hsequence]
      show (Int64.ofInt (parts.snapshot.sequence + 1)).toInt = _
      exact Int64.toInt_ofInt_of_le (by omega) (by omega)
    · rw [hwmemo]
      unfold Admission.memo at hmemo
      split at hmemo
      · cases hmemo
      · rename_i l hledger
        cases hmemo
        exact hledger
    · obtain ⟨op, hop, hrest⟩ := Option.bind_eq_some_iff.mp hoperations
      obtain ⟨none', hnone, hend⟩ := Option.bind_eq_some_iff.mp hrest
      cases hnone
      obtain ⟨onWire, honWire, rfl⟩ := Option.map_eq_some_iff.mp hop
      refine ⟨onWire, (Option.some.inj hend).symm, ?_⟩
      exact carries_of_ledgerAction hchecked.destination hchecked.amount haction honWire
  · cases hrest

end Build

end Remittance
