import Remittance.Proofs.Ledger.Envelope
import Remittance.Proofs.Text.Base64
import Remittance.Proofs.Xdr.Steady

/-!
# Transactions without a missing or a spare octet

Every part of a transaction is read steadily, so a transaction says itself where it ends. Nothing
that is cut off it or put after it can go unnoticed. An envelope is noticed too: the tag of the
present form is that of no party, and the older form goes on after its transaction with the
signatures.
-/

set_option autoImplicit false

namespace Remittance

open Xdr Format

namespace Wire

/-- The readers of parts of unknown kinds look no further than they must. -/
structure Foreign.IsSteady (f : Foreign) : Prop where
  operation : ∀ tag, Steady (f.operation tag)
  ending : ∀ tag, Steady (f.ending tag)

/-- Lawful readers of parts look no further than they must. -/
theorem Foreign.Lawful.isSteady {f : Foreign} (hf : f.Lawful) : f.IsSteady :=
  ⟨fun _ => ⟨hf.operation.steady⟩, fun _ => ⟨hf.ending.steady⟩⟩

/-- A public key is read steadily. -/
theorem steady_key : Steady key.read := steady_union (steady_block 32)

/-- A party is read steadily. -/
theorem steady_party : Steady party.read :=
  steady_union ⟨steady_block 32, steady_pair steady_long (steady_block 32)⟩

/-- An asset is read steadily. -/
theorem steady_asset : Steady asset.read :=
  steady_union ⟨.pure (), steady_pair (steady_block 4) steady_key,
    steady_pair (steady_block 12) steady_key⟩

/-- A pool is read steadily. -/
theorem steady_pool : Steady pool.read :=
  steady_union (steady_pair steady_asset (steady_pair steady_asset steady_signedWord))

/-- A trust line is read steadily. -/
theorem steady_trustLine : Steady trustLine.read :=
  steady_union ⟨.pure (), steady_pair (steady_block 4) steady_key,
    steady_pair (steady_block 12) steady_key, steady_pool⟩

/-- The members of a payment along a path are read steadily. -/
theorem steady_pathBody : Steady pathBody.read :=
  steady_pair steady_asset (steady_pair steady_signedLong (steady_pair steady_party
    (steady_pair steady_asset (steady_pair steady_signedLong (steady_listUpTo 5 steady_asset)))))

/-- An action is read steadily. -/
theorem steady_action {f : Foreign} (hf : f.IsSteady) : Steady (action f).read :=
  steady_openUnion ⟨steady_pair steady_key steady_signedLong,
    steady_pair steady_party (steady_pair steady_asset steady_signedLong), steady_pathBody,
    steady_pair steady_trustLine steady_signedLong, steady_party, .pure (),
    steady_pair (steady_sized 64) (steady_optional (steady_sized 64)), steady_signedLong,
    steady_pathBody⟩ hf.operation

/-- An operation is read steadily. -/
theorem steady_operation {f : Foreign} (hf : f.IsSteady) : Steady (operation f).read :=
  steady_map (steady_pair (steady_optional steady_party) (steady_action hf)) _ _

/-- Time bounds are read steadily. -/
theorem steady_timeBounds : Steady timeBounds.read :=
  steady_map (steady_pair steady_long steady_long) _ _

/-- Ledger bounds are read steadily. -/
theorem steady_ledgerBounds : Steady ledgerBounds.read :=
  steady_map (steady_pair steady_word steady_word) _ _

/-- A further signer is read steadily. -/
theorem steady_signer : Steady signer.read :=
  steady_union ⟨steady_block 32, steady_block 32, steady_block 32,
    steady_pair (steady_block 32) (steady_sized 64)⟩

/-- All conditions together are read steadily. -/
theorem steady_limits : Steady limits.read :=
  steady_map (steady_pair (steady_optional steady_timeBounds)
    (steady_pair (steady_optional steady_ledgerBounds)
      (steady_pair (steady_optional steady_signedLong)
        (steady_pair steady_long (steady_pair steady_word (steady_listUpTo 2 steady_signer)))))) _ _

/-- Conditions are read steadily. -/
theorem steady_conditions : Steady conditions.read :=
  steady_union ⟨.pure (), steady_timeBounds, steady_limits⟩

/-- A memo is read steadily. -/
theorem steady_memo : Steady memo.read :=
  steady_union ⟨.pure (), steady_sized 28, steady_long, steady_block 32, steady_block 32⟩

/-- The end of a transaction is read steadily. -/
theorem steady_ending {f : Foreign} (hf : f.IsSteady) : Steady (ending f).read :=
  steady_openUnion (.pure ()) hf.ending

variable {f : Foreign}

/-- A transaction is read steadily. -/
theorem steady_transaction (hf : f.IsSteady) : Steady (transaction f).read :=
  steady_map (steady_pair steady_party (steady_pair steady_word (steady_pair steady_signedLong
    (steady_pair steady_conditions (steady_pair steady_memo (steady_pair
      (steady_listUpTo 100 (steady_operation hf)) (steady_ending hf))))))) _ _

/-- An action ends where its octets end, if its kind is known or its reader stops there. -/
theorem EndsItself.stopsAfter_action {op : Operation Asset} (hends : EndsItself f op) :
    (action f).StopsAfter ((action f).write op.action) := by
  cases hpart : op.action.foreign? with
  | some p =>
    obtain ⟨hapart, hstops⟩ := hends p hpart
    have hwrite : (action f).write op.action = word.write p.tag ++ p.body := by
      simp [action, openUnion, hpart]
    rw [hwrite]
    exact stopsAfter_openUnion hapart hstops
  | none =>
    have hknown : ∀ p, op.action.foreign? = some p → p.Known actionArms f.operation := by
      intro p hp
      rw [hpart] at hp
      cases hp
    exact fun rest => .inr ⟨_, openArms_action.written hknown rest⟩

/-- An operation ends where its octets end. -/
theorem EndsItself.stopsAfter {op : Operation Asset} (hends : EndsItself f op) :
    (operation f).StopsAfter ((operation f).write op) :=
  ((lawful_party.optional.stopsAfter op.source).pair hends.stopsAfter_action).map _ _

/-- Where a transaction in the older form ends, a transaction ends after the tag of its envelope. -/
theorem OldTransaction.stopsAfter {t : OldTransaction}
    (hends : ∀ op ∈ t.operations.val, EndsItself f op) :
    (transaction f).StopsAfter (word.write 0 ++ t.octets) := by
  have hsource : word.write 0 ++ (block 32).write t.source = party.write (.ofKey t.source) := rfl
  have hconditions : (optional timeBounds).write t.bounds =
      conditions.write (t.bounds.elim .none .time) := by
    cases t.bounds <;> rfl
  have hcount : t.operations.val.length < 2 ^ 32 :=
    Nat.lt_of_le_of_lt t.operations.property (by decide)
  have hoperations : (listUpTo 100 (operation f)).StopsAfter
      ((listUpTo 100 (operation .none)).write t.operations) :=
    StopsAfter.listUpTo (fun op hop => (hends op hop).stopsAfter) hcount
  have hlast : (ending f).StopsAfter (word.write 0) :=
    fun rest => .inr ⟨_, openArms_ending.written (a := none) nofun rest⟩
  rw [OldTransaction.octets, ← List.append_assoc, hsource, hconditions]
  exact ((lawful_party.stopsAfter _).pair ((lawful_word.stopsAfter _).pair
    ((lawful_signedLong.stopsAfter _).pair ((lawful_conditions.stopsAfter _).pair
      ((lawful_memo.stopsAfter _).pair (hoperations.pair hlast)))))).map _ _

/-- An envelope in the older form is no transaction. -/
theorem OldTransaction.readAll?_envelope {t : OldTransaction}
    (hends : ∀ op ∈ t.operations.val, EndsItself f op) (s : Signatures) :
    (transaction f).readAll? (t.envelope s) = none := by
  refine (t.stopsAfter hends).readAll?_append fun hempty => ?_
  have hlength := congrArg List.length hempty
  simp [signatures, Format.listUpTo, word] at hlength

/-- What begins with the tag of an envelope is no transaction. -/
theorem readAll?_envelopeTag (rest : Octets) :
    (transaction f).readAll? (envelopeTag ++ rest) = none := by
  have hparty : party.read (envelopeTag ++ rest) = none := by
    rw [envelopeTag_eq]
    exact read_union_of_other (by simp) rest
  have hread : (transaction f).read (envelopeTag ++ rest) = none := by
    simp [transaction, Format.map, Format.pair, hparty]
  rw [readAll?, hread]

end Wire

namespace Envelope

variable {f : Wire.Foreign} {text : Text} {network : String} {b : Octets}

/-- A text whose octets are not read as a whole is not taken. -/
theorem ofTransactionText?_eq_none_of_readAll? (hb : spelt? text = some b)
    (hread : (Wire.transaction f).readAll? b = none) :
    ofTransactionText? f text network = none := by
  rw [Option.eq_none_iff_forall_ne_some]
  intro e htaken
  obtain ⟨b', w, hb', hw, -⟩ := exists_read htaken
  cases hb.symm.trans hb'
  rw [hread] at hw
  cases hw

/-- No text is taken for a transaction that spells the octets of one with some cut off at the end,
or with more after them. Nor is a text that spells a full envelope: neither in the present form,
whatever comes after its tag, nor in the older form, whatever transaction and signatures it has. All
of this is so however the parts of unknown kinds are read, if they are read steadily. -/
theorem transaction_ends_itself {f : Wire.Foreign} (hf : f.IsSteady) :
    (∀ text network text' network' e b b', ofTransactionText? f text network = some e →
      spelt? text = some b → spelt? text' = some b' → b' ≠ b → (b' <+: b ∨ b <+: b') →
      ofTransactionText? f text' network' = none) ∧
    (∀ text network transaction signatures,
      spelt? text = some (envelopeTag ++ transaction ++ signatures) →
      ofTransactionText? f text network = none) ∧
    ∀ text network (t : Wire.OldTransaction) (s : Wire.Signatures),
      (∀ op ∈ t.operations.val, Wire.EndsItself f op) →
      spelt? text = some (t.envelope s) → ofTransactionText? f text network = none := by
  refine ⟨?_, ?_, ?_⟩
  · intro text network text' network' e b b' htaken hb hb' hother hbegins
    obtain ⟨_, w, hspelt, hw, -⟩ := exists_read htaken
    cases hb.symm.trans hspelt
    exact ofTransactionText?_eq_none_of_readAll? hb'
      (readAll?_eq_none_of_beginning (Wire.steady_transaction hf) hw hother hbegins)
  · intro text network transaction signatures hb
    rw [List.append_assoc] at hb
    exact ofTransactionText?_eq_none_of_readAll? hb (Wire.readAll?_envelopeTag _)
  · intro text network t s hends hb
    exact ofTransactionText?_eq_none_of_readAll? hb (Wire.OldTransaction.readAll?_envelope hends s)

/-- A transaction that ends a sponsorship, with all that can be zero or missing so. -/
def sponsored : Wire.Transaction :=
  ⟨.ofKey (.fill 32 []), 0, 0, .none, .none, ⟨[⟨none, .foreign ⟨17, []⟩⟩], by simp⟩, none⟩

/-- The part of another kind in that transaction is known to its reader. -/
theorem known_sponsored : sponsored.Known .sponsorship where
  operations := by
    intro op hop p hp
    rw [show sponsored.operations.val = [⟨none, .foreign ⟨17, []⟩⟩] from rfl,
      List.mem_singleton] at hop
    subst hop
    cases hp
    exact ⟨by decide, fun _ => rfl⟩
  ending := nofun

/-- A small transaction with an operation of another kind is taken as it is, but not with its last
octet cut off or another one after it, and not in an envelope of either form. -/
theorem sponsored_ends_itself : Wire.Foreign.sponsorship.IsSteady ∧
    (∃ e, ofTransactionText? .sponsorship (Base64.encode sponsored.octets) "test" = some e) ∧
    ofTransactionText? .sponsorship (Base64.encode sponsored.octets.dropLast) "test" = none ∧
    ofTransactionText? .sponsorship (Base64.encode (sponsored.octets ++ [0])) "test" = none ∧
    ofTransactionText? .sponsorship (Base64.encode (sponsored.envelope ⟨[], by simp⟩)) "test" =
      none ∧
    ∃ t : Wire.OldTransaction, t.operations = sponsored.operations ∧
      ofTransactionText? .sponsorship (Base64.encode (t.envelope ⟨[], by simp⟩)) "test" = none := by
  obtain ⟨t, ht⟩ : ∃ t, Transaction.ofWire? sponsored = some t := ⟨_, rfl⟩
  have hread :=
    (Wire.faithful_transaction Wire.Foreign.lawful_sponsorship).readAll?_write known_sponsored
  have hdecode : Transaction.decode? .sponsorship sponsored.octets = some t :=
    Transaction.decode?_eq_some_iff.mpr ⟨_, hread, ht⟩
  have htaken : ofTransactionText? .sponsorship (Base64.encode sponsored.octets) "test" =
      some (.unsigned t "test") :=
    ofTransactionText?_of_decode? (spelt?_encode _) hdecode
  have hnonempty : sponsored.octets ≠ [] := by
    intro hempty
    rw [hempty] at hdecode
    cases hdecode
  obtain ⟨hcut, hpresent, hold⟩ := transaction_ends_itself Wire.Foreign.lawful_sponsorship.isSteady
  refine ⟨Wire.Foreign.lawful_sponsorship.isSteady, ⟨_, htaken⟩, ?_, ?_, ?_, ?_⟩
  · refine hcut _ _ _ _ _ _ _ htaken (spelt?_encode _) (spelt?_encode _) ?_
      (.inl (List.dropLast_prefix _))
    intro heq
    have hlength := congrArg List.length heq
    have hpos := List.length_pos_iff.mpr hnonempty
    rw [List.length_dropLast] at hlength
    omega
  · refine hcut _ _ _ _ _ _ _ htaken (spelt?_encode _) (spelt?_encode _) ?_
      (.inr (List.prefix_append _ _))
    simp
  · exact hpresent _ _ _ _ (spelt?_encode _)
  · refine ⟨⟨.fill 32 [], 0, 0, none, .none, sponsored.operations⟩, rfl,
      hold _ _ _ _ (fun op hop => ?_) (spelt?_encode _)⟩
    exact .of_known (known_sponsored.operations op hop)

end Envelope

end Remittance
