import Mathlib.Tactic.Positivity
import Remittance.Proofs.Ledger.Build
import Remittance.Proofs.Ledger.Transaction

/-!
# What was built is read back

The ledger makes sense of every transaction that was built of the parts of a payment: its octets are
read again, and what was read is written as it was. So one who is given the octets can sign the same
transaction.
-/

set_option autoImplicit false

namespace Remittance

/-- Octets that do not end with a zero are what is left of them when they are filled up. -/
theorem Block.withoutLastZeros_fill {n : Nat} {b : Octets} (hlength : b.length ≤ n)
    (hnonzero : ∀ o ∈ b, o ≠ 0) : Octets.withoutLastZeros (Block.fill n b).val = b := by
  have hfill : (Block.fill n b).val = b ++ List.replicate (n - b.length) 0 := by
    show (b ++ List.replicate n 0).take n = _
    rw [List.take_append, List.take_of_length_le hlength, List.take_replicate,
      Nat.min_eq_left (Nat.sub_le _ _)]
  have hzeros : ∀ k, (List.replicate k (0 : UInt8) ++ b.reverse).dropWhile (· == 0) =
      b.reverse := by
    intro k
    rw [List.dropWhile_append_of_pos fun o ho => by simp [List.eq_of_mem_replicate ho]]
    cases hb : b.reverse with
    | nil => rfl
    | cons o rest =>
      have ho : o ≠ 0 := hnonzero o (List.mem_reverse.mp (by simp [hb]))
      rw [List.dropWhile_cons_of_neg (by simpa using ho)]
  rw [Octets.withoutLastZeros, hfill, List.reverse_append, List.reverse_replicate, hzeros,
    List.reverse_reverse]

namespace AssetCode

/-- A character of a code is the one that its octet stands for, and no zero. -/
theorem octet_of_mem {code : AssetCode} {c : Char} (hc : c ∈ code.val) :
    UInt8.ofNat c.toNat ≠ 0 ∧ Char.ofNat (UInt8.ofNat c.toNat).toNat = c := by
  have hcode := code.property
  simp only [isAssetCode, Bool.and_eq_true, List.all_eq_true] at hcode
  have halpha : (decide (c.val ≥ 'A'.val ∧ c.val ≤ 'Z'.val) ||
      (decide (c.val ≥ 'a'.val) && decide (c.val ≤ 'z'.val)) ||
      (decide (c.val ≥ '0'.val) && decide (c.val ≤ '9'.val))) = true := hcode.2 c hc
  have hrange : 48 ≤ c.toNat ∧ c.toNat < 128 := by
    simp only [Bool.or_eq_true, Bool.and_eq_true, decide_eq_true_eq] at halpha
    have hval : c.val.toNat = c.toNat := rfl
    simp only [UInt32.le_iff_toNat_le, ge_iff_le, hval] at halpha
    simp at halpha
    omega
  have hoctet : (UInt8.ofNat c.toNat).toNat = c.toNat := by
    rw [UInt8.toNat_ofNat']
    omega
  refine ⟨?_, by rw [hoctet, Char.ofNat_toNat]⟩
  intro hzero
  rw [hzero] at hoctet
  have hnone : (0 : UInt8).toNat = 0 := rfl
  omega

/-- A code has an octet for each character. -/
theorem length_octets (code : AssetCode) : code.octets.length = code.val.length := List.length_map _

/-- The octets of a code are left of it when it is filled up. -/
theorem withoutLastZeros_fill {n : Nat} {code : AssetCode} (hlength : code.val.length ≤ n) :
    Octets.withoutLastZeros (Block.fill n code.octets).val = code.octets := by
  refine Block.withoutLastZeros_fill (by rwa [length_octets]) fun o ho => ?_
  obtain ⟨c, hc, rfl⟩ := List.mem_map.mp ho
  exact (octet_of_mem hc).1

/-- A code that was filled up is read back. -/
theorem ofOctets?_fill {n : Nat} {code : AssetCode} (hlength : code.val.length ≤ n) :
    ofOctets? (Block.fill n code.octets).val = some code := by
  have hchars : code.octets.map (fun o => Char.ofNat o.toNat) = code.val := by
    rw [octets, List.map_map]
    exact (List.map_congr_left fun c hc => (octet_of_mem hc).2).trans (List.map_id' _)
  simp only [ofOctets?, withoutLastZeros_fill hlength, hchars]
  rw [dif_pos code.property]

/-- A code has at most twelve characters. -/
theorem length_le_twelve (code : AssetCode) : code.val.length ≤ 12 := by
  have hcode := code.property
  simp only [isAssetCode, Bool.and_eq_true, decide_eq_true_eq] at hcode
  exact hcode.1.2

end AssetCode

/-- An asset of the wire that was asked for is read back, and has the form that its code calls
for. -/
theorem OnWire.read {asset : Asset} {onWire : Wire.Asset} (hasset : OnWire asset onWire) :
    (∃ a, LedgerAsset.ofWire? onWire = some a) ∧ onWire.Fits := by
  cases hasset with
  | native => exact ⟨⟨.native, rfl⟩, trivial⟩
  | short code issuer hlength =>
    refine ⟨⟨.credit code issuer, ?_⟩, trivial⟩
    rw [LedgerAsset.ofWire?, AssetCode.ofOctets?_fill hlength]
    rfl
  | long code issuer hlength =>
    have htwelve := code.length_le_twelve
    refine ⟨⟨.credit code issuer, ?_⟩, ?_⟩
    · rw [LedgerAsset.ofWire?, AssetCode.ofOctets?_fill htwelve]
      rfl
    · rw [Wire.Asset.Fits, AssetCode.withoutLastZeros_fill htwelve, AssetCode.length_octets]
      exact hlength

/-- A word that counts an amount is not negative. -/
theorem Counts.nonneg {amount : Text} {n : Int64} (hcounts : Counts amount n) : 0 ≤ n := by
  obtain ⟨whole, part, -, hn⟩ := hcounts
  have hnumber : 0 ≤ Amount.number whole part := by
    unfold Amount.number
    positivity
  have hrat : (0 : ℚ) ≤ ((n.toInt : Int) : ℚ) := by
    rw [hn]
    exact mul_nonneg hnumber (by norm_num)
  rw [Int64.le_iff_toInt_le]
  exact_mod_cast hrat

/-- An action of the wire that does what a transfer asks for is read back, and its assets have the
forms that their codes call for. -/
theorem Carries.read {transfer : Transfer} {action : Action Wire.Asset}
    (hcarries : Carries transfer action) :
    (∃ op, Operation.ofWire? ⟨none, action⟩ = some op) ∧ ∀ a ∈ action.assets, a.Fits := by
  cases hcarries with
  | createAccount destination amount n hcounts =>
    refine ⟨⟨⟨none, .createAccount destination n⟩, ?_⟩, by simp [Action.assets]⟩
    simp [Operation.ofWire?, Operation.mapAssets?, Action.mapAssets?, Action.isSound,
      hcounts.nonneg]
  | payment destination amount asset onWire n hasset hcounts =>
    obtain ⟨⟨a, ha⟩, hfits⟩ := hasset.read
    refine ⟨⟨⟨none, .payment (Party.ofKey destination) a n⟩, ?_⟩,
      by simpa [Action.assets] using hfits⟩
    simp [Operation.ofWire?, Operation.mapAssets?, Action.mapAssets?, Action.isSound, ha,
      hcounts.nonneg]

/-- Time bounds that are open at their beginning are read back. -/
theorem TimeBounds.exists_read (max : UInt64) : ∃ t, TimeBounds.ofWire? ⟨0, max⟩ = some t := by
  unfold TimeBounds.ofWire? TimeBounds.ofInts
  rw [if_neg (by simp), if_neg (by omega), dif_pos (.inr (by simp))]
  exact ⟨_, rfl⟩

variable {parts : Parts} {w : Wire.Transaction}

/-- The assets of a transaction that says what the parts of a payment say have the forms that their
codes call for. -/
theorem Written.fits (hwritten : Written parts w) : w.Fits := by
  obtain ⟨action, hoperations, hcarries⟩ := hwritten.operation
  intro op hop a ha
  rw [hoperations, List.mem_singleton] at hop
  subst hop
  exact hcarries.read.2 a ha

/-- A transaction that says what the parts of a payment say, with bounds that are open at their
beginning, makes sense to the ledger. -/
theorem Written.exists_read (hwritten : Written parts w) {max : UInt64}
    (hbounds : (parts.bounds.getD .always).toWire = ⟨0, max⟩) :
    ∃ t, Transaction.ofWire? w = some t := by
  obtain ⟨action, hoperations, hcarries⟩ := hwritten.operation
  obtain ⟨⟨op, hop⟩, -⟩ := hcarries.read
  obtain ⟨time, htime⟩ := TimeBounds.exists_read max
  have hconditions : Conditions.ofWire? w.conditions = some (.time time) := by
    rw [hwritten.conditions, hbounds, Conditions.ofWire?, htime]
    rfl
  have hall : allSomeUpTo Operation.ofWire? w.operations = some ⟨[op], by simp⟩ := by
    rw [allSomeUpTo_eq_some_iff, hoperations, allSome, hop]
    rfl
  unfold Transaction.ofWire?
  rw [hconditions, Option.bind_eq_bind, Option.bind_some, hall]
  exact ⟨_, rfl⟩

/-- The octets of a transaction that was built are read, and what was read has the same octets. -/
theorem Build.exists_decoded {f : Wire.Foreign} {e : Envelope} {b : Octets} {max : UInt64}
    (hf : f.Lawful) (hbuild : build parts = .ok e) (hencode : e.transaction.encode? = some b)
    (hbounds : (parts.bounds.getD .always).toWire = ⟨0, max⟩) :
    ∃ t, Transaction.decode? f b = some t ∧ t.encode? = some b := by
  obtain ⟨w, hwire, rfl⟩ := Option.map_eq_some_iff.mp hencode
  obtain ⟨hwritten, -⟩ := Build.written_of_build hbuild hwire
  obtain ⟨t, ht⟩ := hwritten.exists_read hbounds
  have hread := (Wire.faithful_transaction hf).readAll?_write hwritten.isNative.known
  refine ⟨t, Transaction.decode?_eq_some_iff.mpr ⟨w, hread, ht⟩, ?_⟩
  rw [Transaction.encode?, Transaction.toWire?_of_ofWire? ht,
    Wire.Transaction.fitted_eq_self hwritten.fits]
  rfl

end Remittance
