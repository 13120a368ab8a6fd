import Remittance.Ledger.Key
import Remittance.Crypto.Ed25519

/-!
# Key pairs

The secret seed of an account together with its public key. All that leaves a key pair is the
public key and the signatures made with the seed.
-/

set_option autoImplicit false

namespace Remittance

/-- A secret seed. -/
structure Keypair where
  seed : Key

namespace Keypair

/-- The key pair of a secret text. -/
def ofSecret? (t : Text) : Option Keypair := (Key.ofSecret? t).map Keypair.mk

/-- Why a text gives no key pair that can sign. -/
inductive Rejection where
  | badSecret (text : Text)
  | badAccountId (text : Text)
  | secretMissing
deriving DecidableEq

/-- The wording of a rejection. -/
def Rejection.message : Rejection → Text
  | .badSecret text => "Invalid Ed25519 Secret Seed: " ++ text
  | .badAccountId text => "Invalid Ed25519 Public Key: " ++ text
  | .secretMissing => "KeypairSigner requires a keypair with a secret seed"

/-- The key pair of a key text. A text that begins with `S` is read as a secret; any other is read
as an account id, with which nothing can be signed. -/
def ofKeyText (t : Text) : Except Rejection Keypair :=
  if t.codes.head? = some (.char 'S') then
    match ofSecret? t with
    | some k => .ok k
    | none => .error (.badSecret t)
  else if isAccountId t then .error .secretMissing
  else .error (.badAccountId t)

/-- The public key. -/
def publicKey (k : Keypair) : Key := ⟨Ed25519.publicKey k.seed.val, Ed25519.length_publicKey _⟩

/-- The account id of the public key. -/
def accountId (k : Keypair) : String := k.publicKey.accountId

/-- The signature of a message. -/
def sign (k : Keypair) (message : Octets) : Octets :=
  Ed25519.sign k.seed.val k.publicKey.val message

end Keypair

end Remittance
