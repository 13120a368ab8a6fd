import Remittance.Ledger.Transaction
import Remittance.Ledger.Keypair
import Remittance.Text.Base64

/-!
# Envelopes

A transaction bound to a network, with its signatures. What is signed is the hash of the network's
hash, a tag and the transaction; a signature carries the last four octets of its key as a hint.
-/

set_option autoImplicit false

namespace Remittance

/-- A signature and the hint to its key. -/
structure Signature where
  hint : Block 4
  value : BlockUpTo 64
deriving DecidableEq

/-- A transaction bound to a network, with its signatures. -/
structure Envelope where
  transaction : Transaction
  network : String
  signatures : List Signature

/-- What a signer gives back: the envelope as base-64 text, the hash of its transaction in
hexadecimal, and the account id of the key. -/
structure Signed where
  envelope : String
  hash : String
  keyId : String
deriving DecidableEq

/-- The most signatures of an envelope. -/
def maxSignatures : Nat := 20

/-- Why an envelope cannot be signed or written. -/
inductive SigningError where
  | wordRange
  | alreadySigned
  | tooManySignatures (count : Nat)
deriving DecidableEq

/-- The wording of a signing error. -/
def SigningError.message : SigningError → String
  | .wordRange => "xdr value out of range"
  | .alreadySigned => "The keypair has already signed."
  | .tooManySignatures count =>
    "The maximum length of `signatures` should be 20, but got " ++ Numeral.ofNat count ++ "."

/-- A signature on the wire. -/
def Wire.signature : Xdr.Format Signature :=
  ((Xdr.Format.block 4).pair (.sized 64)).map (fun s => (s.hint, s.value)) fun p => ⟨p.1, p.2⟩

/-- The tag of an envelope, which also stands before the transaction in what is signed. -/
def envelopeTag : Octets := [0, 0, 0, 2]

namespace Envelope

/-- The envelope of a transaction, without signatures. -/
def unsigned (transaction : Transaction) (network : String) : Envelope := ⟨transaction, network, []⟩

/-- What the hash of a transaction on a network is taken of. -/
def payload (network : String) (transaction : Octets) : Octets :=
  Sha2.sha256 (Octets.ofText network) ++ envelopeTag ++ transaction

/-- The hash of the transaction. -/
def hash (e : Envelope) : Except SigningError Octets :=
  match e.transaction.encode? with
  | none => .error .wordRange
  | some b => .ok (Sha2.sha256 (payload e.network b))

/-- The octets of the envelope. -/
def encode (e : Envelope) : Except SigningError Octets :=
  match e.transaction.encode? with
  | none => .error .wordRange
  | some b =>
    if h : e.signatures.length ≤ maxSignatures then
      .ok (envelopeTag ++ b ++ (Xdr.Format.listUpTo maxSignatures Wire.signature).write ⟨_, h⟩)
    else .error (.tooManySignatures e.signatures.length)

/-- The base-64 text of the envelope. -/
def text (e : Envelope) : Except SigningError String := e.encode.map Base64.encode

/-- The signature of a key pair over a hash. -/
def signatureOf (k : Keypair) (hash : Octets) : Signature :=
  ⟨⟨k.publicKey.val.drop 28, by simp [k.publicKey.property]⟩,
    ⟨k.sign hash, Nat.le_of_eq (Ed25519.length_sign _ _ _)⟩⟩

/-- The envelope with the signature of a key pair added, unless it is there already. -/
def addSignature (e : Envelope) (k : Keypair) : Except SigningError Envelope := do
  let hash ← e.hash
  let signature := signatureOf k hash
  if signature ∈ e.signatures then .error .alreadySigned
  else .ok { e with signatures := e.signatures ++ [signature] }

/-- The result of signing, for an envelope to which the signature has been added. -/
def result (e : Envelope) (k : Keypair) : Except SigningError Signed := do
  let text ← e.text
  let hash ← e.hash
  pure ⟨text, Octets.hex hash, k.accountId⟩

/-- Signs an envelope: the envelope afterwards and the result. A signature that was added stays,
even if the envelope then has too many to be written. -/
def sign (e : Envelope) (k : Keypair) : Envelope × Except SigningError Signed :=
  match e.addSignature k with
  | .error failure => (e, .error failure)
  | .ok signed => (signed, signed.result k)

/-- The envelope, bound to a network, of the transaction that a base-64 text spells. -/
def ofTransactionText? (f : Wire.Foreign) (text : Text) (network : String) : Option Envelope := do
  let b ← Base64.decode? (← text.string?)
  let t ← Transaction.decode? f b
  pure (unsigned t network)

end Envelope

end Remittance
