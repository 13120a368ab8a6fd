import Remittance.Payment.Connection
import Remittance.Proofs.Ledger.Build
import Remittance.Proofs.Ledger.Cosigning

/-!
# What is signed here

What the key pair of a request makes of an unsigned envelope: the text of an envelope with one
signature, which is over the hash of the transaction and bound to the network. An envelope whose
transaction fits the wire is always signed.
-/

set_option autoImplicit false

namespace Remittance

/-- A text is the envelope of a transaction of the wire on a network, with one signature of a key
pair: the hint is the end of its public key, and the hash that is signed is bound to the network. -/
structure SignedText (k : Keypair) (network : String) (w : Wire.Transaction) (text : String)
    (signature : Signature) : Prop where
  hint : signature.hint.val = k.publicKey.val.drop 28
  value : signature.value.val = k.sign (Sha2.sha256 (Envelope.payload network w.octets))
  text : text = Base64.encode (w.envelope ⟨[signature], Nat.le_add_left 1 19⟩)

/-- A text is the envelope of one transaction whose parts are known, whoever signs it. -/
theorem SignedText.transaction_eq {k k' : Keypair} {network network' text : String}
    {w w' : Wire.Transaction} {signature signature' : Signature} {f : Wire.Foreign}
    (hf : f.Lawful) (hknown : w.Known f) (hknown' : w'.Known f)
    (h : SignedText k network w text signature) (h' : SignedText k' network' w' text signature') :
    w = w' := by
  have hoctets := congrArg Base64.decode? (h.text.symm.trans h'.text)
  rw [Base64.decode?_encode, Base64.decode?_encode, Option.some.injEq] at hoctets
  have hread := Wire.readAll?_envelope hf hknown ⟨[signature], Nat.le_add_left 1 19⟩
  rw [hoctets, Wire.readAll?_envelope hf hknown'] at hread
  exact (congrArg Prod.fst (Option.some.inj hread)).symm

/-- An envelope whose transaction does not fit the wire is not signed here. -/
theorem signHere_of_unwritable {e : Envelope} (k : Keypair)
    (hencode : e.transaction.encode? = none) :
    Connections.signHere k e = .failed (.signing .wordRange) := by
  have hhash : e.hash = .error .wordRange := by
    rw [Envelope.hash, hencode]
  rw [Connections.signHere, Envelope.sign, Envelope.addSignature, hhash]
  rfl

/-- What signing an unsigned envelope here gives, if its transaction fits the wire. -/
theorem signHere_of_toWire? {e : Envelope} {w : Wire.Transaction} (k : Keypair)
    (hunsigned : e.signatures = []) (hwire : e.transaction.toWire? = some w) :
    Connections.signHere k e = .value
      { envelope := Base64.encode (w.envelope
          ⟨[Envelope.signatureOf k (Envelope.hashOf e.network w)], Nat.le_add_left 1 19⟩)
        hash := Octets.hex (Envelope.hashOf e.network w)
        keyId := k.accountId } := by
  have hsign := Envelope.sign_of_not_mem (k := k) hwire (by simp [hunsigned])
  rw [hunsigned, List.nil_append] at hsign
  have hresult := Envelope.result_of_length_le (k := k)
    (e := { e with signatures := [Envelope.signatureOf k (Envelope.hashOf e.network w)] })
    hwire (Nat.le_add_left 1 19)
  rw [Connections.signHere, hsign]
  dsimp only
  rw [hresult]

/-- What signing an unsigned envelope here gives. -/
theorem signedText_of_signHere {k : Keypair} {e : Envelope} {signed : Signed}
    (hunsigned : e.signatures = []) (hsigned : Connections.signHere k e = .value signed) :
    ∃ w signature, e.transaction.toWire? = some w ∧
      SignedText k e.network w signed.envelope signature := by
  cases hencode : e.transaction.encode? with
  | none =>
    rw [signHere_of_unwritable k hencode] at hsigned
    cases hsigned
  | some b =>
    obtain ⟨w, hwire, -⟩ := Option.map_eq_some_iff.mp hencode
    rw [signHere_of_toWire? k hunsigned hwire] at hsigned
    cases hsigned
    refine ⟨w, _, hwire, ?_, ?_, rfl⟩
    · simp only [Envelope.signatureOf]
    · simp only [Envelope.signatureOf, Envelope.hashOf]

/-- The hash that signing an unsigned envelope here reports. -/
theorem hash_of_signHere {k : Keypair} {e : Envelope} {w : Wire.Transaction} {signed : Signed}
    (hwire : e.transaction.toWire? = some w) (hsigned : Connections.signHere k e = .value signed) :
    signed.hash = Octets.hex (Envelope.hashOf e.network w) := by
  have hreported := (Envelope.signingCall_sign (k := k) hwire).reported
  unfold Connections.signHere at hsigned
  split at hsigned
  · next signed' hreply =>
    cases hsigned
    exact (hreported signed hreply).1
  · cases hsigned

/-- An unsigned envelope whose transaction fits the wire is signed here. -/
theorem exists_signed {k : Keypair} {e : Envelope} (hunsigned : e.signatures = [])
    (hfits : e.transaction.encode?.isSome = true) :
    ∃ signed, Connections.signHere k e = .value signed := by
  obtain ⟨b, hencode⟩ := Option.isSome_iff_exists.mp hfits
  obtain ⟨w, hwire, -⟩ := Option.map_eq_some_iff.mp hencode
  exact ⟨_, signHere_of_toWire? k hunsigned hwire⟩

end Remittance
