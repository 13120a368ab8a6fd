import Mathlib.Data.List.TakeWhile
import Remittance.Ledger.Transaction
import Remittance.Proofs.Ledger.Operation
import Remittance.Proofs.Ledger.Wire

/-!
# Transactions that are written again

A transaction that was read from the wire can always be written again. What is written is what was
read, with every asset in the form that the length of its code calls for. So the octets come back as
they were if and only if they are the spelling that this library would have given.
-/

set_option autoImplicit false

namespace Remittance

open Xdr

/-- Octets without their last zeros, and those zeros. -/
theorem Octets.exists_zeros (b : Octets) : ∃ k, b = b.withoutLastZeros ++ List.replicate k 0 := by
  obtain ⟨k, hzeros⟩ : ∃ k, b.reverse.takeWhile (· == 0) = List.replicate k 0 := by
    refine ⟨_, List.eq_replicate_of_mem fun o ho => ?_⟩
    simpa using List.mem_takeWhile_imp ho
  refine ⟨k, ?_⟩
  calc b = (b.reverse.takeWhile (· == 0) ++ b.reverse.dropWhile (· == 0)).reverse := by
        rw [List.takeWhile_append_dropWhile, List.reverse_reverse]
    _ = (b.reverse.dropWhile (· == 0)).reverse ++ (b.reverse.takeWhile (· == 0)).reverse :=
        List.reverse_append
    _ = b.withoutLastZeros ++ List.replicate k 0 := by
        rw [hzeros, List.reverse_replicate, withoutLastZeros]

/-- Without its last zeros a byte string is no longer than before. -/
theorem Octets.length_withoutLastZeros_le (b : Octets) :
    b.withoutLastZeros.length ≤ b.length := by
  obtain ⟨k, hk⟩ := b.exists_zeros
  have hlength := congrArg List.length hk
  rw [List.length_append] at hlength
  omega

/-- A block is filled up again with the zeros that it ended with. -/
theorem Block.fill_withoutLastZeros {n : Nat} (b : Block n) :
    Block.fill n (Octets.withoutLastZeros b.val) = b := by
  obtain ⟨k, hk⟩ := Octets.exists_zeros b.val
  have hlength := congrArg List.length hk
  rw [List.length_append, List.length_replicate, b.property] at hlength
  apply Subtype.ext
  show (Octets.withoutLastZeros b.val ++ List.replicate n 0).take n = b.val
  rw [List.take_append, List.take_of_length_le (by omega), List.take_replicate,
    show min (n - (Octets.withoutLastZeros b.val).length) n = k by omega]
  exact hk.symm

/-- An octet is the one that its character stands for. -/
theorem UInt8.ofNat_toNat_char (o : UInt8) : UInt8.ofNat (Char.ofNat o.toNat).toNat = o := by
  have ho := o.toNat_lt
  have hvalid : o.toNat.isValidChar := .inl (by omega)
  have hchar : (Char.ofNat o.toNat).toNat = o.toNat := by
    rw [Char.ofNat, dif_pos hvalid]
    rfl
  rw [hchar, UInt8.ofNat_toNat]

/-- The octets of a code that was read are those that spelt it, without the last zeros. -/
theorem AssetCode.octets_of_ofOctets? {b : Octets} {code : AssetCode}
    (hread : AssetCode.ofOctets? b = some code) : code.octets = b.withoutLastZeros := by
  unfold AssetCode.ofOctets? at hread
  dsimp only at hread
  split at hread
  · cases hread
    rw [AssetCode.octets, List.map_map]
    exact (List.map_congr_left fun o _ => UInt8.ofNat_toNat_char o).trans (List.map_id _)
  · cases hread

/-- A code is short if it has at most four octets. -/
theorem AssetCode.isShort_iff (code : AssetCode) :
    code.isShort = true ↔ code.octets.length ≤ 4 := by
  rw [AssetCode.octets, List.length_map]
  simp [AssetCode.isShort]

namespace Wire

/-- Whether an asset has the form that the length of its code calls for. -/
def Asset.Fits : Asset → Prop
  | .long code _ => 4 < (Octets.withoutLastZeros code.val).length
  | _ => True

/-- An asset in the form that the length of its code calls for. -/
def Asset.fitted : Asset → Asset
  | .long code issuer =>
    if (Octets.withoutLastZeros code.val).length ≤ 4 then
      .short (Block.fill 4 (Octets.withoutLastZeros code.val)) issuer
    else .long code issuer
  | a => a

/-- A fitted asset has the form that the length of its code calls for. -/
theorem Asset.fits_fitted (a : Asset) : a.fitted.Fits := by
  cases a with
  | native => trivial
  | short code issuer => trivial
  | long code issuer =>
    by_cases hshort : (Octets.withoutLastZeros code.val).length ≤ 4
    · rw [fitted, if_pos hshort]
      trivial
    · rw [fitted, if_neg hshort]
      exact Nat.lt_of_not_le hshort

/-- An asset that has the form that its code calls for is fitted already. -/
theorem Asset.fitted_eq_self {a : Asset} (hfits : a.Fits) : a.fitted = a := by
  cases a with
  | native => rfl
  | short code issuer => rfl
  | long code issuer => exact if_neg (Nat.not_le_of_lt hfits)

/-- An asset that was read is written in the form that the length of its code calls for. -/
theorem Asset.toWire_of_ofWire? {w : Asset} {a : LedgerAsset}
    (hread : LedgerAsset.ofWire? w = some a) : a.toWire = w.fitted := by
  cases w with
  | native =>
    cases hread
    rfl
  | short code issuer =>
    obtain ⟨c, hc, rfl⟩ := Option.map_eq_some_iff.mp hread
    have hoctets := AssetCode.octets_of_ofOctets? hc
    have hshort : c.isShort = true := by
      have hle := Octets.length_withoutLastZeros_le code.val
      rw [AssetCode.isShort_iff, hoctets]
      rwa [code.property] at hle
    rw [LedgerAsset.toWire, if_pos hshort, hoctets, Block.fill_withoutLastZeros]
    rfl
  | long code issuer =>
    obtain ⟨c, hc, rfl⟩ := Option.map_eq_some_iff.mp hread
    have hoctets := AssetCode.octets_of_ofOctets? hc
    rw [LedgerAsset.toWire, fitted, hoctets]
    by_cases hshort : c.isShort = true
    · rw [if_pos hshort, if_pos (hoctets ▸ c.isShort_iff.mp hshort)]
    · rw [if_neg hshort, if_neg (hoctets ▸ fun hle => hshort (c.isShort_iff.mpr hle)),
        Block.fill_withoutLastZeros]

/-- A transaction whose assets all have the forms that the lengths of their codes call for. -/
def Transaction.Fits (w : Transaction) : Prop :=
  ∀ op ∈ w.operations.val, ∀ a ∈ op.action.assets, a.Fits

/-- The transaction with every asset in the form that the length of its code calls for. -/
def Transaction.fitted (w : Transaction) : Transaction :=
  { w with operations := mapUpTo (Operation.mapAssets Asset.fitted) w.operations }

/-- The assets of a fitted transaction have the forms that their codes call for. -/
theorem Transaction.fits_fitted (w : Transaction) : w.fitted.Fits := by
  intro op hop a ha
  obtain ⟨op', -, rfl⟩ := List.mem_map.mp hop
  rw [Operation.mapAssets, Action.assets_mapAssets] at ha
  obtain ⟨a', -, rfl⟩ := List.mem_map.mp ha
  exact a'.fits_fitted

/-- A transaction whose assets have the forms that their codes call for is fitted already. -/
theorem Transaction.fitted_eq_self {w : Transaction} (hfits : w.Fits) : w.fitted = w := by
  have hsame : mapUpTo (Operation.mapAssets Asset.fitted) w.operations = w.operations :=
    mapUpTo_eq_self fun op hop =>
      Operation.mapAssets_eq_self fun a ha => Asset.fitted_eq_self (hfits op hop a ha)
  rw [fitted, hsame]

/-- The parts of unknown kinds are the same in both forms of a transaction. -/
theorem Transaction.Known.fitted {w : Transaction} {f : Foreign} (hknown : w.Known f) :
    w.fitted.Known f where
  operations := by
    intro op hop
    obtain ⟨op', hop', rfl⟩ := List.mem_map.mp hop
    intro p hp
    rw [Operation.mapAssets, Action.foreign?_mapAssets] at hp
    exact hknown.operations op' hop' p hp
  ending := hknown.ending

/-- The spelling of a transaction that this library gives: nothing but zeros fills up a byte string,
no code of at most four characters has the long form, and each part of an unknown kind has the
spelling that its reader gives. -/
def IsStandard (f : Foreign) (b : Octets) : Prop :=
  ∃ w : Transaction, w.Fits ∧ w.Known f ∧ b = w.octets

end Wire

/-- Time bounds that were read are written as they were. -/
theorem TimeBounds.toWire_of_ofWire? {t : Wire.TimeBounds} {t' : TimeBounds}
    (hread : TimeBounds.ofWire? t = some t') : t'.toWire = t := by
  unfold TimeBounds.ofWire? TimeBounds.ofInts at hread
  rw [if_neg (by omega), if_neg (by omega)] at hread
  split at hread
  · cases hread
    simp [TimeBounds.toWire]
  · cases hread

/-- An optional value that is changed and changed back is as it was. -/
theorem someOrAbsent_comp {A B : Type} {f : A → Option B} {g : B → A} {a : Option A} {b : Option B}
    (hf : someOrAbsent f a = some b) (hgf : ∀ a b, f a = some b → g b = a) : b.map g = a := by
  cases a with
  | none =>
    cases hf
    rfl
  | some a =>
    obtain ⟨b', hb, rfl⟩ := Option.map_eq_some_iff.mp hf
    rw [Option.map_some, hgf a b' hb]

/-- Conditions that were read are written as they were. -/
theorem Conditions.toWire_of_ofWire? {c : Wire.Conditions} {c' : Conditions}
    (hread : Conditions.ofWire? c = some c') : c'.toWire = c := by
  cases c with
  | none =>
    cases hread
    rfl
  | time t =>
    obtain ⟨t', ht, rfl⟩ := Option.map_eq_some_iff.mp hread
    rw [toWire, TimeBounds.toWire_of_ofWire? ht]
  | all l =>
    obtain ⟨time, htime, hrest⟩ := Option.bind_eq_some_iff.mp hread
    split at hrest
    · cases hrest
      rw [toWire, someOrAbsent_comp htime fun _ _ => TimeBounds.toWire_of_ofWire?]
    · cases hrest

/-- An operation that was read is written with its assets in the forms that they call for. -/
theorem Operation.toWire_of_ofWire? {op : Operation Wire.Asset} {op' : Operation LedgerAsset}
    (hread : Operation.ofWire? op = some op') :
    (op'.mapAssets? fun a => some a.toWire) = some (op.mapAssets Wire.Asset.fitted) := by
  obtain ⟨read, hassets, hsound⟩ := Option.bind_eq_some_iff.mp hread
  split at hsound
  · cases hsound
    exact Operation.mapAssets?_comp hassets fun a _ b hb =>
      congrArg some (Wire.Asset.toWire_of_ofWire? hb)
  · cases hsound

namespace Transaction

/-- A transaction that was read is always written again, with its assets in the forms that they call
for. -/
theorem toWire?_of_ofWire? {w : Wire.Transaction} {t : Transaction} (hread : ofWire? w = some t) :
    t.toWire? = some w.fitted := by
  obtain ⟨conditions, hconditions, hrest⟩ := Option.bind_eq_some_iff.mp hread
  obtain ⟨operations, hoperations, heq⟩ := Option.bind_eq_some_iff.mp hrest
  cases heq
  have hmapped := allSomeUpTo_comp hoperations fun _ _ _ => Operation.toWire_of_ofWire?
  have hfee : (0 : Int) ≤ w.fee.toNat ∧ (w.fee.toNat : Int) < 0x100000000 := by
    have hlt := w.fee.toNat_lt
    omega
  unfold toWire?
  dsimp only
  rw [hmapped, Option.bind_eq_bind, Option.bind_some, if_pos hfee,
    Conditions.toWire_of_ofWire? hconditions, Int.toNat_natCast, UInt32.ofNat_toNat]
  rfl

variable {f : Wire.Foreign} {b : Octets}

/-- Octets are decoded if they are read as a whole and the ledger makes sense of what they spell. -/
theorem decode?_eq_some_iff {t : Transaction} :
    decode? f b = some t ↔ ∃ w, (Wire.transaction f).readAll? b = some w ∧ ofWire? w = some t :=
  Option.bind_eq_some_iff

/-- A transaction that was decoded is always written again. -/
theorem toWire?_of_decode? {t : Transaction} (hread : decode? f b = some t) :
    ∃ w, (Wire.transaction f).readAll? b = some w ∧ t.toWire? = some w.fitted := by
  obtain ⟨w, hw, ht⟩ := decode?_eq_some_iff.mp hread
  exact ⟨w, hw, toWire?_of_ofWire? ht⟩

end Transaction

namespace Wire

variable {f : Foreign} {b : Octets} {w : Transaction}

/-- What was read of a whole input is known to the readers of parts of unknown kinds. -/
theorem known_of_readAll? (hf : f.Lawful) (hread : (transaction f).readAll? b = some w) :
    w.Known f :=
  ((faithful_transaction hf).of_readAll? hread).1

/-- Octets are written again as they were if and only if they are the standard spelling. -/
theorem octets_fitted_eq_iff (hf : f.Lawful) (hread : (transaction f).readAll? b = some w) :
    w.fitted.octets = b ↔ IsStandard f b := by
  constructor
  · intro heq
    exact ⟨w.fitted, w.fits_fitted, (known_of_readAll? hf hread).fitted, heq.symm⟩
  · rintro ⟨w', hfits, hknown, rfl⟩
    have hsame := (faithful_transaction hf).readAll?_write hknown
    rw [write_transaction, hread] at hsame
    cases hsame
    rw [Transaction.fitted_eq_self hfits]

end Wire

end Remittance
