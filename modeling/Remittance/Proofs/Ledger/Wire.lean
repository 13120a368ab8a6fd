import Remittance.Ledger.Wire
import Remittance.Proofs.Xdr.Format

/-!
# The layout of transactions

Every part of a transaction of which the kinds are known has a lawful format: it is read back from
what is written of it, and the octets that are read are written again but for those that fill up a
byte string. Where the readers of parts of other kinds are lawful, the layout of the whole is
faithful to the transactions whose parts they know.
-/

set_option autoImplicit false

namespace Remittance

open Xdr Format

namespace Wire

/-- A public key is lawful. -/
theorem lawful_key : key.Lawful := by
  refine SoundArms.lawful ⟨⟨lawful_block 32, fun _ => rfl, ?_⟩, by decide, by simp, ?_⟩
  · intro a body hproject
    exact (Option.some.inj hproject).symm
  · exact fun _ => rfl

/- In each union below the goals that are left say that a value has one of the cases, and that a
case makes a value out of the body that was taken from it. -/

/-- A party is lawful. -/
theorem lawful_party : party.Lawful := by
  refine SoundArms.lawful ⟨⟨⟨lawful_block 32, fun _ => rfl, ?_⟩,
    ⟨lawful_long.pair (lawful_block 32), fun _ => rfl, ?_⟩⟩, by decide, by simp, ?_⟩
  case refine_3 => rintro ⟨k, _ | n⟩ <;> rfl
  all_goals
    rintro ⟨k, _ | n⟩ body hproject <;> cases hproject
    rfl

/-- An asset is lawful. -/
theorem lawful_asset : asset.Lawful := by
  refine SoundArms.lawful ⟨⟨Arm.sound_unit _ _,
    ⟨(lawful_block 4).pair lawful_key, fun _ => rfl, ?_⟩,
    ⟨(lawful_block 12).pair lawful_key, fun _ => rfl, ?_⟩⟩,
    by decide, by simp [Arm.unit], ?_⟩
  case refine_3 => intro a; cases a <;> rfl
  all_goals
    intro a body hproject
    cases a <;> cases hproject
    rfl

/-- A pool is lawful. -/
theorem lawful_pool : pool.Lawful := by
  refine SoundArms.lawful ⟨⟨lawful_asset.pair (lawful_asset.pair lawful_signedWord),
    fun _ => rfl, ?_⟩, by decide, by simp, ?_⟩
  · intro a body hproject
    exact (Option.some.inj hproject).symm
  · exact fun _ => rfl

/-- A trust line is lawful. -/
theorem lawful_trustLine : trustLine.Lawful := by
  refine SoundArms.lawful ⟨⟨Arm.sound_unit _ _,
    ⟨(lawful_block 4).pair lawful_key, fun _ => rfl, ?_⟩,
    ⟨(lawful_block 12).pair lawful_key, fun _ => rfl, ?_⟩, ⟨lawful_pool, fun _ => rfl, ?_⟩⟩,
    by decide, by simp [Arm.unit], ?_⟩
  case refine_4 => rintro ((_ | _ | _) | _) <;> rfl
  all_goals
    rintro ((_ | _ | _) | _) body hproject <;> cases hproject
    rfl

/-- The members of a payment along a path are lawful. -/
theorem lawful_pathBody : pathBody.Lawful :=
  lawful_asset.pair (lawful_signedLong.pair (lawful_party.pair (lawful_asset.pair
    (lawful_signedLong.pair (lawful_asset.listUpTo (by decide))))))

/-- The known cases of an action are sound, and each action is either one of them or a part of a
kind of its own. -/
theorem openArms_action : OpenArms actionArms Action.foreign? .foreign := by
  have hdata : (Format.sized 64).Lawful := lawful_sized (by decide)
  refine ⟨⟨⟨lawful_key.pair lawful_signedLong, fun _ => rfl, ?_⟩,
    ⟨lawful_party.pair (lawful_asset.pair lawful_signedLong), fun _ => rfl, ?_⟩,
    ⟨lawful_pathBody, fun _ => rfl, ?_⟩,
    ⟨lawful_trustLine.pair lawful_signedLong, fun _ => rfl, ?_⟩, ⟨lawful_party, fun _ => rfl, ?_⟩,
    Arm.sound_unit _ _, ⟨hdata.pair hdata.optional, fun _ => rfl, ?_⟩,
    ⟨lawful_signedLong, fun _ => rfl, ?_⟩, ⟨lawful_pathBody, fun _ => rfl, ?_⟩⟩,
    by decide, by simp [actionArms, Arm.unit], ?total, ?cases, fun _ => rfl, ?part⟩
  case total => intro a hnone; cases a <;> first | rfl | cases hnone
  case cases => simp [actionArms, Arm.unit, Action.foreign?]
  case part => intro a p hpart; cases a <;> cases hpart; rfl
  all_goals
    intro a body hproject
    cases a <;> cases hproject
    rfl

/-- An action is read as it is written if it is of a known kind, or a part that is known to its
reader. -/
theorem faithful_action {f : Foreign} (hf : f.operation.Lawful) :
    (action f).Faithful (fun a => ∀ p, a.foreign? = some p → p.Known actionArms f.operation)
      fun a => a.foreign? = none :=
  openArms_action.faithful hf

/-- Time bounds are lawful. -/
theorem lawful_timeBounds : timeBounds.Lawful :=
  (lawful_long.pair lawful_long).map (fun _ => rfl) fun _ => rfl

/-- Ledger bounds are lawful. -/
theorem lawful_ledgerBounds : ledgerBounds.Lawful :=
  (lawful_word.pair lawful_word).map (fun _ => rfl) fun _ => rfl

/-- A further signer is lawful. -/
theorem lawful_signer : signer.Lawful := by
  refine SoundArms.lawful
    ⟨⟨⟨lawful_block 32, fun _ => rfl, ?_⟩, ⟨lawful_block 32, fun _ => rfl, ?_⟩,
    ⟨lawful_block 32, fun _ => rfl, ?_⟩,
    ⟨(lawful_block 32).pair (lawful_sized (by decide)), fun _ => rfl, ?_⟩⟩, by decide, by simp, ?_⟩
  case refine_5 => intro a; cases a <;> rfl
  all_goals
    intro a body hproject
    cases a <;> cases hproject
    rfl

/-- All conditions together are lawful. -/
theorem lawful_limits : limits.Lawful :=
  (lawful_timeBounds.optional.pair (lawful_ledgerBounds.optional.pair
    (lawful_signedLong.optional.pair (lawful_long.pair (lawful_word.pair
      (lawful_signer.listUpTo (by decide))))))).map (fun _ => rfl) fun _ => rfl

/-- Conditions are lawful. -/
theorem lawful_conditions : conditions.Lawful := by
  refine SoundArms.lawful ⟨⟨Arm.sound_unit _ _, ⟨lawful_timeBounds, fun _ => rfl, ?_⟩,
    ⟨lawful_limits, fun _ => rfl, ?_⟩⟩, by decide, by simp [Arm.unit], ?_⟩
  case refine_3 => intro a; cases a <;> rfl
  all_goals
    intro a body hproject
    cases a <;> cases hproject
    rfl

/-- A memo is lawful. -/
theorem lawful_memo : memo.Lawful := by
  refine SoundArms.lawful ⟨⟨Arm.sound_unit _ _, ⟨lawful_sized (by decide), fun _ => rfl, ?_⟩,
    ⟨lawful_long, fun _ => rfl, ?_⟩, ⟨lawful_block 32, fun _ => rfl, ?_⟩,
    ⟨lawful_block 32, fun _ => rfl, ?_⟩⟩, by decide, by simp [Arm.unit], ?_⟩
  case refine_5 => intro a; cases a <;> rfl
  all_goals
    intro a body hproject
    cases a <;> cases hproject
    rfl

/-- The known end of a transaction is sound, and any other end is a part of a kind of its own. -/
theorem openArms_ending : OpenArms endingArms id some where
  sound := Arm.sound_unit _ _
  tags := by decide
  apart := by simp [endingArms]
  total := by simp [endingArms, Arm.unit]
  cases := by simp [endingArms, Arm.unit]
  part?_ofPart _ := rfl
  ofPart_part? _ _ hpart := hpart.symm

/-- The readers of parts of unknown kinds are lawful. -/
structure Foreign.Lawful (f : Foreign) : Prop where
  operation : f.operation.Lawful
  ending : f.ending.Lawful

/-- Readers that read nothing are lawful. -/
theorem Foreign.lawful_none : Foreign.none.Lawful := ⟨⟨nofun, nofun, nofun⟩, ⟨nofun, nofun, nofun⟩⟩

/-- A reader of one more kind of operation, the end of a sponsorship, which has no body. -/
def Foreign.sponsorship : Foreign :=
  ⟨fun tag input => if tag = 17 then some ([], input) else Option.none, fun _ _ => Option.none⟩

/-- That reader is lawful. -/
theorem Foreign.lawful_sponsorship : Foreign.sponsorship.Lawful where
  operation := by
    constructor
    all_goals
      intro tag input body rest hread
      simp only [Foreign.sponsorship] at hread
      split at hread <;> cases hread
    · exact List.suffix_refl input
    · rename_i htag
      intro more
      exact if_pos htag
    · rename_i htag
      intro more
      exact if_pos htag
  ending := ⟨nofun, nofun, nofun⟩

end Wire

/-- An operation of which the kind is known, or that is a part known to its reader. -/
def Operation.Known {A : Type} (op : Operation A) (f : Wire.Foreign) : Prop :=
  ∀ p, op.action.foreign? = some p → p.Known Wire.actionArms f.operation

/-- A transaction whose parts of unknown kinds are known to their readers. -/
structure Wire.Transaction.Known (w : Wire.Transaction) (f : Wire.Foreign) : Prop where
  operations : ∀ op ∈ w.operations.val, op.Known f
  ending : ∀ p, w.ending = some p → p.Known Wire.endingArms f.ending

/-- A transaction all of whose parts have kinds that this library knows. -/
structure Wire.Transaction.IsNative (w : Wire.Transaction) : Prop where
  operations : ∀ op ∈ w.operations.val, op.action.foreign? = none
  ending : w.ending = none

namespace Wire

variable {f : Foreign}

/-- All parts of a native transaction are known to all readers. -/
theorem Transaction.IsNative.known {w : Transaction} (hnative : w.IsNative) : w.Known f where
  operations op hop p hp := by
    rw [hnative.operations op hop] at hp
    cases hp
  ending p hp := by
    rw [hnative.ending] at hp
    cases hp

/-- The layout of an operation is faithful where the reader of actions of unknown kinds is lawful.
-/
theorem faithful_operation (hf : f.operation.Lawful) :
    (operation f).Faithful (fun op => op.Known f) fun op => op.action.foreign? = none :=
  have hpair := lawful_party.optional.faithful.pair (faithful_action hf)
  (hpair.map (fun _ => rfl) fun _ => rfl).of_iff (fun _ => (and_iff_right trivial).symm)
    fun _ => (and_iff_right trivial).symm

/-- The layout of a transaction is faithful where the readers of parts of unknown kinds are
lawful. -/
theorem faithful_transaction (hf : f.Lawful) :
    (transaction f).Faithful (fun w => w.Known f) fun w => w.IsNative := by
  have hoperations := (faithful_operation hf.operation).listUpTo (show 100 < 2 ^ 32 by decide)
  have hending := openArms_ending.faithful hf.ending
  refine ((lawful_party.faithful.pair (lawful_word.faithful.pair (lawful_signedLong.faithful.pair
    (lawful_conditions.faithful.pair (lawful_memo.faithful.pair (hoperations.pair hending)))))).map
      (fun _ => rfl) fun _ => rfl).of_iff ?_ ?_
  · intro w
    constructor
    · intro hknown
      exact ⟨trivial, trivial, trivial, trivial, trivial, hknown.operations, hknown.ending⟩
    · rintro ⟨-, -, -, -, -, hoperations, hlast⟩
      exact ⟨hoperations, hlast⟩
  · intro w
    constructor
    · intro hnative
      exact ⟨trivial, trivial, trivial, trivial, trivial, hnative.operations, hnative.ending⟩
    · rintro ⟨-, -, -, -, -, hoperations, hlast⟩
      exact ⟨hoperations, hlast⟩

/-- A transaction is written without regard to the readers of parts of unknown kinds. -/
theorem write_transaction (w : Transaction) : (transaction f).write w = w.octets := rfl

end Wire

end Remittance
