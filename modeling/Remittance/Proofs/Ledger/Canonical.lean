import Remittance.Proofs.Ledger.Built

/-!
# The canonical form of a transaction

A transaction that fits the wire, and whose parts make sense to the ledger, is read back from its
octets as it was. All that is read from octets is such a transaction, so reading and writing again
changes octets at most once. Different transactions of this kind have different octets.
-/

set_option autoImplicit false

namespace Remittance

open Xdr

/-- A short code has at most four characters. -/
theorem AssetCode.length_le_four {code : AssetCode} (hshort : code.isShort = true) :
    code.val.length ≤ 4 := by
  rw [← length_octets]
  exact code.isShort_iff.mp hshort

/-- An asset is read back from its form on the wire. -/
theorem LedgerAsset.ofWire?_toWire (a : LedgerAsset) : ofWire? a.toWire = some a := by
  cases a with
  | native => rfl
  | credit code issuer =>
    by_cases hshort : code.isShort = true
    · have hlength := AssetCode.length_le_four hshort
      rw [toWire, if_pos hshort, ofWire?, AssetCode.ofOctets?_fill hlength]
      rfl
    · rw [toWire, if_neg hshort, ofWire?, AssetCode.ofOctets?_fill code.length_le_twelve]
      rfl

/-- Time bounds of which both ends fit 64 bits. -/
def TimeBounds.Fits (t : TimeBounds) : Prop := t.min < 2 ^ 64 ∧ t.max < 2 ^ 64

/-- Time bounds that fit are read back from their form on the wire. -/
theorem TimeBounds.ofWire?_toWire {t : TimeBounds} (hfits : t.Fits) :
    ofWire? t.toWire = some t := by
  have hmin : (UInt64.ofNat t.min).toNat = t.min := UInt64.toNat_ofNat_of_lt' hfits.1
  have hmax : (UInt64.ofNat t.max).toNat = t.max := UInt64.toNat_ofNat_of_lt' hfits.2
  unfold ofWire? toWire ofInts
  simp only [hmin, hmax]
  rw [if_neg (by omega), if_neg (by omega), dif_pos (by simpa using t.ordered)]
  rfl

/-- Time bounds that were read fit. -/
theorem TimeBounds.fits_of_ofWire? {w : Wire.TimeBounds} {t : TimeBounds}
    (hread : ofWire? w = some t) : t.Fits := by
  unfold ofWire? ofInts at hread
  rw [if_neg (by omega), if_neg (by omega)] at hread
  split at hread
  · cases hread
    simp only [Fits, Int.toNat_natCast]
    exact ⟨w.min.toNat_lt, w.max.toNat_lt⟩
  · cases hread

/-- The bounds in a transaction's conditions fit and are in order. -/
def Conditions.IsSound : Conditions → Prop
  | .none => True
  | .time t => t.Fits
  | .all l => (∀ t, l.time = some t → t.Fits) ∧
      (l.ledgers.map Wire.LedgerBounds.isOrdered).getD true = true

/-- Conditions of which the bounds are in order are read back from their form on the wire. -/
theorem Conditions.ofWire?_toWire {c : Conditions} (hsound : c.IsSound) :
    ofWire? c.toWire = some c := by
  cases c with
  | none => rfl
  | time t =>
    have ht : t.Fits := hsound
    rw [toWire, ofWire?, TimeBounds.ofWire?_toWire ht]
    rfl
  | all l =>
    obtain ⟨hfits, hordered⟩ := hsound
    have htime : someOrAbsent TimeBounds.ofWire? (l.time.map TimeBounds.toWire) = some l.time := by
      cases hl : l.time with
      | none => rfl
      | some t =>
        rw [Option.map_some, someOrAbsent, TimeBounds.ofWire?_toWire (hfits t hl)]
        rfl
    rw [toWire, ofWire?]
    simp [htime, hordered]

/-- The bounds in conditions that were read are in order. -/
theorem Conditions.isSound_of_ofWire? {w : Wire.Conditions} {c : Conditions}
    (hread : ofWire? w = some c) : c.IsSound := by
  cases w with
  | none =>
    cases hread
    trivial
  | time t =>
    obtain ⟨t', ht, rfl⟩ := Option.map_eq_some_iff.mp hread
    exact TimeBounds.fits_of_ofWire? ht
  | all l =>
    obtain ⟨time, htime, hrest⟩ := Option.bind_eq_some_iff.mp hread
    split at hrest
    · rename_i hordered
      cases hrest
      refine ⟨?_, hordered⟩
      rintro t rfl
      cases hl : l.time with
      | none =>
        rw [hl] at htime
        cases htime
      | some t' =>
        rw [hl] at htime
        obtain ⟨t'', ht, heq⟩ := Option.map_eq_some_iff.mp htime
        cases heq
        exact TimeBounds.fits_of_ofWire? ht
    · cases hrest

/-- An operation that makes sense is read back from its form on the wire. -/
theorem Operation.ofWire?_of_toWire {op : Operation LedgerAsset} {w : Operation Wire.Asset}
    (hsound : op.action.isSound = true) (hwire : op.mapAssets? (fun a => some a.toWire) = some w) :
    ofWire? w = some op := by
  have hback : w.mapAssets? LedgerAsset.ofWire? = some (op.mapAssets id) := by
    apply Operation.mapAssets?_comp hwire
    intro a _ b hb
    cases hb
    exact a.ofWire?_toWire
  have hsame : op.mapAssets id = op := Operation.mapAssets_eq_self fun _ _ => rfl
  rw [ofWire?, hback, hsame, Option.bind_eq_bind, Option.bind_some, if_pos hsound]

namespace Transaction

/-- A transaction can be written exactly if its fee fits the word for it. -/
theorem isSome_encode?_iff {t : Transaction} :
    t.encode?.isSome = true ↔ 0 ≤ t.fee ∧ t.fee < 2 ^ 32 := by
  have hoperations : allSomeUpTo (fun op => op.mapAssets? fun a => some a.toWire) t.operations =
      some (mapUpTo (Operation.mapAssets LedgerAsset.toWire) t.operations) := by
    simp only [Operation.mapAssets?_some, allSomeUpTo_some]
  rw [encode?, Option.isSome_map, toWire?, hoperations, Option.bind_eq_bind, Option.bind_some,
    show (2 : Int) ^ 32 = 0x100000000 by norm_num]
  by_cases hfee : 0 ≤ t.fee ∧ t.fee < 0x100000000
  · simp [hfee]
  · simp [hfee]

/-- The ledger makes sense of all parts of a transaction. -/
structure IsSound (t : Transaction) : Prop where
  conditions : t.conditions.IsSound
  operations : ∀ op ∈ t.operations.val, op.action.isSound = true

/-- A transaction whose parts of unknown kinds are known to their readers. -/
structure Known (t : Transaction) (f : Wire.Foreign) : Prop where
  operations : ∀ op ∈ t.operations.val, op.Known f
  ending : ∀ p, t.ending = some p → p.Known Wire.endingArms f.ending

variable {f : Wire.Foreign}

/-- The parts of unknown kinds are the same in a transaction and in its form on the wire. -/
theorem Known.of_toWire? {t : Transaction} {w : Wire.Transaction} (hknown : t.Known f)
    (hwire : t.toWire? = some w) : w.Known f := by
  obtain ⟨operations, hoperations, hrest⟩ := Option.bind_eq_some_iff.mp hwire
  split at hrest
  · cases hrest
    refine ⟨fun op hop p hp => ?_, hknown.ending⟩
    obtain ⟨op', hop', hmapped⟩ :=
      exists_of_mem_allSome (allSomeUpTo_eq_some_iff.mp hoperations) hop
    obtain ⟨action, haction, rfl⟩ := Option.map_eq_some_iff.mp hmapped
    rw [Action.foreign?_of_mapAssets? haction] at hp
    exact hknown.operations op' hop' p hp
  · cases hrest

/-- The parts of unknown kinds of what was read are those that were on the wire. -/
theorem known_of_ofWire? {w : Wire.Transaction} {t : Transaction} (hknown : w.Known f)
    (hread : ofWire? w = some t) : t.Known f := by
  obtain ⟨conditions, -, hrest⟩ := Option.bind_eq_some_iff.mp hread
  obtain ⟨operations, hoperations, heq⟩ := Option.bind_eq_some_iff.mp hrest
  cases heq
  refine ⟨fun op hop p hp => ?_, hknown.ending⟩
  obtain ⟨op', hop', hmade⟩ := exists_of_mem_allSome (allSomeUpTo_eq_some_iff.mp hoperations) hop
  obtain ⟨read, hassets, hsound⟩ := Option.bind_eq_some_iff.mp hmade
  obtain ⟨action, haction, rfl⟩ := Option.map_eq_some_iff.mp hassets
  split at hsound
  · cases hsound
    rw [Action.foreign?_of_mapAssets? haction] at hp
    exact hknown.operations op' hop' p hp
  · cases hsound

/-- A transaction that makes sense is read back from its form on the wire. -/
theorem ofWire?_of_toWire? {t : Transaction} {w : Wire.Transaction} (hsound : t.IsSound)
    (hwire : t.toWire? = some w) : ofWire? w = some t := by
  obtain ⟨operations, hoperations, hrest⟩ := Option.bind_eq_some_iff.mp hwire
  split at hrest
  · rename_i hfee
    cases hrest
    have hback : allSomeUpTo Operation.ofWire? operations = some (mapUpTo id t.operations) := by
      apply allSomeUpTo_comp hoperations
      intro op hop b hb
      exact Operation.ofWire?_of_toWire (hsound.operations op hop) hb
    have hword : ((UInt32.ofNat t.fee.toNat).toNat : Int) = t.fee := by
      rw [UInt32.toNat_ofNat_of_lt' (show t.fee.toNat < 2 ^ 32 by omega)]
      omega
    have hsame : mapUpTo id t.operations = t.operations := mapUpTo_eq_self fun _ _ => rfl
    unfold ofWire?
    simp only [Conditions.ofWire?_toWire hsound.conditions, hback, hsame, hword,
      Option.bind_eq_bind, Option.bind_some]
  · cases hrest

/-- A transaction that was read makes sense. -/
theorem isSound_of_ofWire? {w : Wire.Transaction} {t : Transaction} (hread : ofWire? w = some t) :
    t.IsSound := by
  obtain ⟨conditions, hconditions, hrest⟩ := Option.bind_eq_some_iff.mp hread
  obtain ⟨operations, hoperations, heq⟩ := Option.bind_eq_some_iff.mp hrest
  cases heq
  refine ⟨Conditions.isSound_of_ofWire? hconditions, ?_⟩
  intro op hop
  obtain ⟨wireOp, -, hop⟩ := exists_of_mem_allSome (allSomeUpTo_eq_some_iff.mp hoperations) hop
  obtain ⟨read, -, hsound⟩ := Option.bind_eq_some_iff.mp hop
  split at hsound
  · rename_i hsense
    cases hsound
    exact hsense
  · cases hsound

/-- What was decoded makes sense, and its parts of unknown kinds are known to their readers. -/
theorem isSound_of_decode? {b : Octets} {t : Transaction} (hf : f.Lawful)
    (hread : decode? f b = some t) : t.IsSound ∧ t.Known f := by
  obtain ⟨w, hw, ht⟩ := decode?_eq_some_iff.mp hread
  exact ⟨isSound_of_ofWire? ht, known_of_ofWire? (Wire.known_of_readAll? hf hw) ht⟩

/-- What makes sense is read back from its octets. -/
theorem IsSound.decode?_encode {t : Transaction} {b : Octets} (hf : f.Lawful) (hsound : t.IsSound)
    (hknown : t.Known f) (hencode : t.encode? = some b) : decode? f b = some t := by
  obtain ⟨w, hwire, rfl⟩ := Option.map_eq_some_iff.mp hencode
  have hread := (Wire.faithful_transaction hf).readAll?_write (hknown.of_toWire? hwire)
  exact decode?_eq_some_iff.mpr ⟨w, hread, ofWire?_of_toWire? hsound hwire⟩

/-- Different transactions that make sense have different octets. -/
theorem IsSound.encode?_injective {t t' : Transaction} {b : Octets} (hf : f.Lawful)
    (hsound : t.IsSound) (hknown : t.Known f) (hsound' : t'.IsSound) (hknown' : t'.Known f)
    (hencode : t.encode? = some b) (hencode' : t'.encode? = some b) : t = t' := by
  have hread := hsound.decode?_encode hf hknown hencode
  rw [hsound'.decode?_encode hf hknown' hencode'] at hread
  exact (Option.some.inj hread).symm

end Transaction

end Remittance
