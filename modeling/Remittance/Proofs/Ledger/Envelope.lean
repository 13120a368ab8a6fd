import Remittance.Ledger.Envelope
import Remittance.Proofs.Ledger.Transaction
import Remittance.Proofs.Text.Base64
import Remittance.Proofs.Xdr.Steady

/-!
# The layout of envelopes

A full envelope is its tag, a transaction and the signatures. In the older form, whose tag is zero,
the source of a transaction is always a key, and its conditions are time bounds or nothing; so the
tag and the transaction are together the octets of a transaction as it stands alone. Only such a
transaction is taken from a text, and its envelope has no signatures yet.
-/

set_option autoImplicit false

namespace Remittance

open Xdr Format

namespace Wire

/-- The signatures of an envelope. -/
abbrev Signatures := { l : List Signature // l.length ≤ maxSignatures }

/-- The signatures of an envelope. -/
def signatures : Format Signatures := .listUpTo maxSignatures signature

/-- A full envelope. -/
def envelope (f : Foreign) : Format (Transaction × Signatures) :=
  .union [{
    tag := 2, Body := Transaction × Signatures, format := (transaction f).pair signatures
    project := some
    inject := id }]

/-- The octets of a full envelope. They do not depend on how parts of unknown kinds are read. -/
def Transaction.envelope (w : Transaction) (s : Signatures) : Octets :=
  envelopeTag ++ w.octets ++ signatures.write s

/-- A signature is lawful. -/
theorem lawful_signature : signature.Lawful :=
  ((lawful_block 4).pair (lawful_sized (by decide))).map (fun _ => rfl) fun _ => rfl

/-- The signatures of an envelope are lawful. -/
theorem lawful_signatures : signatures.Lawful := lawful_signature.listUpTo (by decide)

/-- The tag of an envelope is a word. -/
theorem envelopeTag_eq : envelopeTag = word.write 2 := by decide

variable {f : Foreign}

/-- A full envelope is its tag, the transaction and the signatures. -/
theorem write_envelope (w : Transaction) (s : Signatures) :
    (envelope f).write (w, s) = w.envelope s := by
  rw [Transaction.envelope, envelopeTag_eq, List.append_assoc]
  rfl

/-- A full envelope is read back from its octets, if its transaction is known to the readers of
parts of unknown kinds. -/
theorem readAll?_envelope {w : Transaction} (hf : f.Lawful) (hknown : w.Known f) (s : Signatures) :
    (envelope f).readAll? (w.envelope s) = some (w, s) := by
  have hpair := (faithful_transaction hf).pair lawful_signatures.faithful
  have hbody : ((transaction f).pair signatures).read
      (((transaction f).pair signatures).write (w, s)) = some ((w, s), []) := by
    simpa using hpair.written (w, s) [] ⟨hknown, trivial⟩
  rw [← write_envelope (f := f), readAll?_eq_some_iff]
  show (word.read (word.write 2 ++ ((transaction f).pair signatures).write (w, s)) >>= _) = _
  rw [lawful_word.written]
  exact Option.map_eq_some_iff.mpr ⟨_, hbody, rfl⟩

/-- A transaction in the older form. -/
structure OldTransaction where
  source : Key
  fee : UInt32
  sequence : Int64
  bounds : Option TimeBounds
  memo : LedgerMemo
  operations : { l : List (Operation Asset) // l.length ≤ 100 }

/-- The octets of a transaction in the older form. -/
def OldTransaction.octets (t : OldTransaction) : Octets :=
  (block 32).write t.source ++ (word.write t.fee ++ (signedLong.write t.sequence ++
    ((optional timeBounds).write t.bounds ++ (Wire.memo.write t.memo ++
      ((listUpTo 100 (operation .none)).write t.operations ++ word.write 0)))))

/-- The octets of a full envelope in the older form. -/
def OldTransaction.envelope (t : OldTransaction) (s : Signatures) : Octets :=
  word.write 0 ++ t.octets ++ signatures.write s

/-- An operation of a kind of its own ends where its octets end: its reader reads exactly these, if
it reads anything that begins with them. -/
def EndsItself (f : Foreign) (op : Operation Asset) : Prop :=
  ∀ p, op.action.foreign? = some p →
    (actionArms.any fun arm => arm.tag == p.tag) = false ∧ f.operation.StopsAfter p.tag p.body

/-- An operation that is known to its reader ends where its octets end. -/
theorem EndsItself.of_known {op : Operation Asset} (hknown : op.Known f) : EndsItself f op :=
  fun p hp => ⟨(hknown p hp).apart, fun rest => .inr ⟨p.body, (hknown p hp).read rest⟩⟩

end Wire

namespace Envelope

variable {f : Wire.Foreign} {text : Text} {network : String} {e : Envelope} {b : Octets}

/-- The octets that a text spells in base 64, if it spells any. -/
def spelt? (text : Text) : Option Octets := text.string?.bind Base64.decode?

/-- The text of octets in base 64 spells them. -/
theorem spelt?_encode (b : Octets) : spelt? (Base64.encode b) = some b := by
  rw [spelt?, Text.string?_ofString, Option.bind_some, Base64.decode?_encode]

/-- A text is taken if it spells octets that are decoded. -/
theorem ofTransactionText?_eq_some_iff : ofTransactionText? f text network = some e ↔
    ∃ b t, spelt? text = some b ∧ Transaction.decode? f b = some t ∧ e = unsigned t network := by
  unfold ofTransactionText? spelt?
  constructor
  · intro hread
    obtain ⟨s, hs, hrest⟩ := Option.bind_eq_some_iff.mp hread
    obtain ⟨b, hb, hrest⟩ := Option.bind_eq_some_iff.mp hrest
    obtain ⟨t, ht, heq⟩ := Option.bind_eq_some_iff.mp hrest
    exact ⟨b, t, Option.bind_eq_some_iff.mpr ⟨s, hs, hb⟩, ht, (Option.some.inj heq).symm⟩
  · rintro ⟨b, t, hspelt, ht, rfl⟩
    obtain ⟨s, hs, hb⟩ := Option.bind_eq_some_iff.mp hspelt
    exact Option.bind_eq_some_iff.mpr ⟨s, hs, Option.bind_eq_some_iff.mpr
      ⟨b, hb, Option.bind_eq_some_iff.mpr ⟨t, ht, rfl⟩⟩⟩

/-- A text that is taken spells a transaction, which can be written again. -/
theorem exists_read (hread : ofTransactionText? f text network = some e) :
    ∃ b w, spelt? text = some b ∧ (Wire.transaction f).readAll? b = some w ∧
      e.transaction.toWire? = some w.fitted ∧ e.signatures = [] ∧ e.network = network := by
  obtain ⟨b, t, hb, ht, rfl⟩ := ofTransactionText?_eq_some_iff.mp hread
  obtain ⟨w, hw, hwire⟩ := Transaction.toWire?_of_decode? ht
  exact ⟨b, w, hb, hw, hwire, rfl, rfl⟩

/-- A text that spells octets which are decoded is taken. -/
theorem ofTransactionText?_of_decode? {t : Transaction} (hb : spelt? text = some b)
    (ht : Transaction.decode? f b = some t) :
    ofTransactionText? f text network = some (unsigned t network) :=
  ofTransactionText?_eq_some_iff.mpr ⟨b, t, hb, ht, rfl⟩

/-- A full envelope is written as its layout says. -/
theorem encode_eq_ok_iff : e.encode = .ok b ↔
    ∃ w s, e.transaction.toWire? = some w ∧ s.val = e.signatures ∧ b = w.envelope s := by
  unfold encode Transaction.encode?
  cases hwire : e.transaction.toWire? with
  | none => simp
  | some w =>
    dsimp only [Option.map_some]
    split
    · rename_i hcount
      constructor
      · intro heq
        exact ⟨w, ⟨_, hcount⟩, rfl, rfl, (Except.ok.inj heq).symm⟩
      · rintro ⟨w', ⟨s, hs⟩, hw, rfl, rfl⟩
        cases hw
        rfl
    · rename_i hcount
      constructor
      · nofun
      · rintro ⟨w', s, -, hs, -⟩
        exact absurd (hs ▸ s.property) hcount

end Envelope

end Remittance
