import Remittance.Proofs.Computation
import Remittance.Proofs.Ledger.Envelope
import Remittance.Proofs.Text.Base64

/-!
# Envelopes signed more than once

One envelope may be signed by many key pairs, in any order and more than once by each. A call of a
signer either finds its signature there and leaves the envelope alone, or puts its signature at the
end; it fails in the second case too if there are then more signatures than an envelope may have.
So after any calls, failed ones included, the signatures are those of the key pairs so far, each
once and in the order of their first use, over a hash that never changes.
-/

set_option autoImplicit false

namespace Remittance

namespace Envelope

/-- The hash of a transaction of the wire on a network. -/
def hashOf (network : String) (w : Wire.Transaction) : Octets :=
  Sha2.sha256 (payload network w.octets)

/-- The envelope after calls of many signers, one after the other. -/
def signedBy (e : Envelope) (ks : List Keypair) : Envelope := ks.foldl (fun e k => (e.sign k).1) e

/-- The signatures of key pairs over a hash, each once and in the order of their first use. -/
def signaturesOf (hash : Octets) (ks : List Keypair) : List Signature :=
  (ks.map fun k => signatureOf k hash).eraseDups

/-- One more call comes after all others. -/
theorem signedBy_concat (e : Envelope) (ks : List Keypair) (k : Keypair) :
    e.signedBy (ks ++ [k]) = ((e.signedBy ks).sign k).1 := by
  simp only [signedBy, List.foldl_append, List.foldl_cons, List.foldl_nil]

/-- One more signature stands at the end of a list without repetitions, unless it is there already.
-/
theorem eraseDups_concat (l : List Signature) (s : Signature) :
    (l ++ [s]).eraseDups = if s ∈ l then l.eraseDups else l.eraseDups ++ [s] := by
  rw [List.eraseDups_append]
  by_cases hmem : s ∈ l
  · simp [List.removeAll, hmem]
  · simp [List.removeAll, hmem, List.eraseDups_cons]

/-- The signature of one more key pair stands at the end, unless it is there already. -/
theorem signaturesOf_concat (hash : Octets) (ks : List Keypair) (k : Keypair) :
    signaturesOf hash (ks ++ [k]) =
      if signatureOf k hash ∈ signaturesOf hash ks then signaturesOf hash ks
      else signaturesOf hash ks ++ [signatureOf k hash] := by
  simp only [signaturesOf, List.map_append, List.map_cons, List.map_nil, eraseDups_concat,
    List.mem_eraseDups]

section Call

variable {e : Envelope} {w : Wire.Transaction} {k : Keypair}

/-- The hash of an envelope whose transaction fits the wire. -/
theorem hash_of_toWire? (hwire : e.transaction.toWire? = some w) :
    e.hash = .ok (hashOf e.network w) := by
  rw [hash, Transaction.encode?, hwire]
  rfl

/-- An envelope with too many signatures is not written. -/
theorem encode_of_crowded (hwire : e.transaction.toWire? = some w)
    (hcrowded : maxSignatures < e.signatures.length) :
    e.encode = .error (.tooManySignatures e.signatures.length) := by
  rw [encode, Transaction.encode?, hwire]
  exact dif_neg (by omega)

/-- What is given back for an envelope whose transaction fits the wire, if the envelope can be
written. -/
theorem result_of_toWire? (hwire : e.transaction.toWire? = some w) :
    e.result k =
      e.encode.map fun b => ⟨Base64.encode b, Octets.hex (hashOf e.network w), k.accountId⟩ := by
  rw [result, text, hash_of_toWire? hwire]
  cases e.encode with
  | error failure => rfl
  | ok b => rfl

/-- A key pair that has signed does not sign again. -/
theorem sign_of_mem (hwire : e.transaction.toWire? = some w)
    (hmem : signatureOf k (hashOf e.network w) ∈ e.signatures) :
    e.sign k = (e, .error .alreadySigned) := by
  have hadd : e.addSignature k = .error .alreadySigned := by
    apply bind_eq_error_iff.mpr
    refine .inr ⟨_, hash_of_toWire? hwire, ?_⟩
    exact if_pos hmem
  rw [sign, hadd]

/-- A new signature is put at the end, whether or not the envelope can then be written. -/
theorem sign_of_not_mem (hwire : e.transaction.toWire? = some w)
    (hnew : signatureOf k (hashOf e.network w) ∉ e.signatures) :
    let signed := { e with signatures := e.signatures ++ [signatureOf k (hashOf e.network w)] }
    e.sign k = (signed, signed.result k) := by
  intro signed
  have hadd : e.addSignature k = .ok signed := by
    apply bind_eq_ok_iff.mpr
    refine ⟨_, hash_of_toWire? hwire, ?_⟩
    exact if_neg hnew
  rw [sign, hadd]

/-- Whatever a call answers, the transaction and the network are what they were. -/
theorem sign_keeps (e : Envelope) (k : Keypair) :
    (e.sign k).1.transaction = e.transaction ∧ (e.sign k).1.network = e.network := by
  unfold sign addSignature
  cases e.hash with
  | error failure => exact ⟨rfl, rfl⟩
  | ok hash =>
    simp only [bind, Except.bind]
    split_ifs
    · exact ⟨rfl, rfl⟩
    · exact ⟨rfl, rfl⟩

/-- What a call of the signer of a key pair makes of an envelope of a transaction of the wire with
the given hash, and what it answers. -/
structure SigningCall (w : Wire.Transaction) (hash : Octets) (k : Keypair) (before after : Envelope)
    (reply : Except SigningError Signed) : Prop where
  /-- A signature that is there already is not put there again. -/
  repeated : signatureOf k hash ∈ before.signatures →
    after.signatures = before.signatures ∧ reply = .error .alreadySigned
  /-- A new signature stays even if there are then too many. -/
  crowded : signatureOf k hash ∉ before.signatures → maxSignatures < after.signatures.length →
    reply = .error (.tooManySignatures after.signatures.length)
  succeeds : (∃ signed, reply = .ok signed) ↔
    signatureOf k hash ∉ before.signatures ∧ after.signatures.length ≤ maxSignatures
  reported : ∀ signed, reply = .ok signed →
    signed.hash = Octets.hex hash ∧ signed.keyId = k.accountId
  /-- The text spells the transaction and the signatures after the call, and nothing else. -/
  spelt : ∀ signed, reply = .ok signed → ∃ s : Wire.Signatures, s.val = after.signatures ∧
    signed.envelope = Base64.encode (w.envelope s) ∧
    ∀ f : Wire.Foreign, f.Lawful → w.Known f →
      (Base64.decode? signed.envelope).bind (Wire.envelope f).readAll? = some (w, s)

/-- An envelope with no more signatures than it may have is written. -/
theorem result_of_length_le (hwire : e.transaction.toWire? = some w)
    (hcount : e.signatures.length ≤ maxSignatures) :
    e.result k = .ok ⟨Base64.encode (w.envelope ⟨e.signatures, hcount⟩),
      Octets.hex (hashOf e.network w), k.accountId⟩ := by
  rw [result_of_toWire? hwire, encode_eq_ok_iff.mpr ⟨w, ⟨e.signatures, hcount⟩, hwire, rfl, rfl⟩]
  rfl

/-- Nothing is given back for an envelope with too many signatures. -/
theorem result_of_crowded (hwire : e.transaction.toWire? = some w)
    (hcrowded : maxSignatures < e.signatures.length) :
    e.result k = .error (.tooManySignatures e.signatures.length) := by
  rw [result_of_toWire? hwire, encode_of_crowded hwire hcrowded]
  rfl

/-- The three ways of a call: the signature is there already, it is one too many, or it is put
there and written. -/
theorem signingCall_sign (hwire : e.transaction.toWire? = some w) :
    SigningCall w (hashOf e.network w) k e (e.sign k).1 (e.sign k).2 := by
  by_cases hmem : signatureOf k (hashOf e.network w) ∈ e.signatures
  · rw [sign_of_mem hwire hmem]
    constructor <;> simp [hmem]
  rw [sign_of_not_mem hwire hmem]
  generalize hsigned : { e with
    signatures := e.signatures ++ [signatureOf k (hashOf e.network w)] } = signed
  have hwire' : signed.transaction.toWire? = some w := by
    rw [← hsigned]
    exact hwire
  have hnetwork : signed.network = e.network := by rw [← hsigned]
  by_cases hcount : signed.signatures.length ≤ maxSignatures
  · have hresult := result_of_length_le (k := k) hwire' hcount
    rw [hnetwork] at hresult
    refine ⟨fun h => absurd h hmem, fun _ hcrowded => absurd hcrowded (Nat.not_lt.mpr hcount),
      ⟨fun _ => ⟨hmem, hcount⟩, fun _ => ⟨_, hresult⟩⟩, ?_, ?_⟩
    · intro reported heq
      cases hresult.symm.trans heq
      exact ⟨rfl, rfl⟩
    · intro reported heq
      cases hresult.symm.trans heq
      refine ⟨⟨signed.signatures, hcount⟩, rfl, rfl, fun f hf hknown => ?_⟩
      rw [Base64.decode?_encode]
      exact Wire.readAll?_envelope hf hknown _
  · have hresult := result_of_crowded (k := k) hwire' (by omega)
    constructor <;> simp [hmem, hcount, hresult]

end Call

/-- After any calls the transaction and the network are what they were. -/
theorem signedBy_keeps (e : Envelope) (ks : List Keypair) :
    (e.signedBy ks).transaction = e.transaction ∧ (e.signedBy ks).network = e.network := by
  induction ks using List.reverseRecOn with
  | nil => exact ⟨rfl, rfl⟩
  | append_singleton ks k ih =>
    obtain ⟨htransaction, hnetwork⟩ := sign_keeps (e.signedBy ks) k
    rw [signedBy_concat]
    exact ⟨htransaction.trans ih.1, hnetwork.trans ih.2⟩

section Calls

variable {e : Envelope} {w : Wire.Transaction}

/-- After any calls the transaction is the same on the wire. -/
theorem toWire?_signedBy (hwire : e.transaction.toWire? = some w) (ks : List Keypair) :
    (e.signedBy ks).transaction.toWire? = some w := by
  rw [(signedBy_keeps e ks).1, hwire]

/-- After any calls the hash is the same. -/
theorem hash_signedBy (hwire : e.transaction.toWire? = some w) (ks : List Keypair) :
    (e.signedBy ks).hash = .ok (hashOf e.network w) := by
  rw [hash_of_toWire? (toWire?_signedBy hwire ks), (signedBy_keeps e ks).2]

/-- The signatures after any calls, by induction on the last of them. -/
theorem signatures_signedBy (hunsigned : e.signatures = [])
    (hwire : e.transaction.toWire? = some w) (ks : List Keypair) :
    (e.signedBy ks).signatures = signaturesOf (hashOf e.network w) ks := by
  induction ks using List.reverseRecOn with
  | nil => exact hunsigned
  | append_singleton ks k ih =>
    have hbefore := toWire?_signedBy hwire ks
    have hnetwork := (signedBy_keeps e ks).2
    rw [signedBy_concat, signaturesOf_concat]
    by_cases hmem : signatureOf k (hashOf e.network w) ∈ signaturesOf (hashOf e.network w) ks
    · rw [sign_of_mem hbefore (by rwa [hnetwork, ih]), ih, if_pos hmem]
    · rw [sign_of_not_mem hbefore (by rwa [hnetwork, ih]), if_neg hmem]
      simp only [ih, hnetwork]

/-- What an unsigned envelope of a transaction of the wire is before and after a call of a signer
that any other calls have been made before, whether or not these calls or this one fail. -/
structure Cosigned (e : Envelope) (w : Wire.Transaction) (earlier : List Keypair) (k : Keypair)
    (before after : Envelope) (reply : Except SigningError Signed) : Prop where
  transaction : before.transaction = e.transaction ∧ after.transaction = e.transaction
  network : before.network = e.network ∧ after.network = e.network
  hash : before.hash = .ok (hashOf e.network w) ∧ after.hash = .ok (hashOf e.network w)
  before_signatures : before.signatures = signaturesOf (hashOf e.network w) earlier
  after_signatures : after.signatures = signaturesOf (hashOf e.network w) (earlier ++ [k])
  call : SigningCall w (hashOf e.network w) k before after reply

/-- Signing one envelope any number of times keeps it consistent. -/
theorem consistent_of_cosigning (hunsigned : e.signatures = [])
    (hwire : e.transaction.toWire? = some w) (earlier : List Keypair) (k : Keypair) :
    let before := e.signedBy earlier
    Cosigned e w earlier k before (before.sign k).1 (before.sign k).2 := by
  intro before
  have hbefore : before.transaction = e.transaction ∧ before.network = e.network :=
    signedBy_keeps e earlier
  have hafter := signedBy_keeps e (earlier ++ [k])
  have hhash := hash_signedBy hwire (earlier ++ [k])
  have hsignatures := signatures_signedBy hunsigned hwire (earlier ++ [k])
  rw [signedBy_concat] at hafter hhash hsignatures
  refine ⟨⟨hbefore.1, hafter.1⟩, ⟨hbefore.2, hafter.2⟩, ⟨hash_signedBy hwire earlier, hhash⟩,
    signatures_signedBy hunsigned hwire earlier, hsignatures, ?_⟩
  rw [← hbefore.2]
  exact signingCall_sign (toWire?_signedBy hwire earlier)

end Calls

/-- An unsigned envelope of one operation. -/
def inflating : Envelope :=
  unsigned ⟨.ofKey (.fill 32 []), 100, 1, .none, .none, ⟨[⟨none, .inflation⟩], by simp⟩,
    none⟩ "test"

/-- A key pair whose signer is called twice signs the first time and fails the second time, which
leaves its one signature there. -/
theorem inflating_signed_twice : inflating.signatures = [] ∧
    (∃ signed, (inflating.sign ⟨.fill 32 []⟩).2 = .ok signed ∧
      signed.keyId = Keypair.accountId ⟨.fill 32 []⟩) ∧
    ((inflating.signedBy [⟨.fill 32 []⟩]).sign ⟨.fill 32 []⟩).2 = .error .alreadySigned ∧
    (inflating.signedBy [⟨.fill 32 []⟩, ⟨.fill 32 []⟩]).signatures.length = 1 := by
  generalize hk : (⟨.fill 32 []⟩ : Keypair) = k
  obtain ⟨w, hwire⟩ : ∃ w, inflating.transaction.toWire? = some w := ⟨_, rfl⟩
  have hfirst := consistent_of_cosigning rfl hwire [] k
  have hsecond := consistent_of_cosigning rfl hwire [k] k
  have hone : ∀ hash, signaturesOf hash [k] = [signatureOf k hash] := fun _ => rfl
  have hthere : signatureOf k (hashOf inflating.network w) ∈
      (inflating.signedBy [k]).signatures := by
    rw [hsecond.before_signatures, hone]
    exact List.mem_singleton_self _
  obtain ⟨hsame, hfails⟩ := hsecond.call.repeated hthere
  have hfew : (inflating.sign k).1.signatures.length ≤ maxSignatures := by
    have hafter := hfirst.after_signatures
    rw [List.nil_append, hone] at hafter
    rw [show (inflating.sign k).1.signatures = [_] from hafter]
    exact Nat.le_add_left 1 19
  obtain ⟨signed, hsigned⟩ := hfirst.call.succeeds.mpr ⟨List.not_mem_nil, hfew⟩
  refine ⟨rfl, ⟨signed, hsigned, (hfirst.call.reported signed hsigned).2⟩, hfails, ?_⟩
  rw [← List.singleton_append, signedBy_concat, hsame, hsecond.before_signatures, hone,
    List.length_singleton]

end Envelope

end Remittance
