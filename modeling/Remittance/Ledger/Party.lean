import Remittance.Ledger.Key

/-!
# Parties

Who acts in a transaction or receives from it: an account, or a numbered sub-account of one.
-/

set_option autoImplicit false

namespace Remittance

/-- An account, perhaps with the number of a sub-account. -/
structure Party where
  key : Key
  subaccount : Option UInt64
deriving DecidableEq

namespace Party

/-- The account of a key, without a sub-account. -/
def ofKey (key : Key) : Party := ⟨key, none⟩

/-- The text of a party: the account id, or the longer text that holds the number too. -/
def text (p : Party) : String :=
  match p.subaccount with
  | none => p.key.accountId
  | some n => Key.encode Key.subaccountVersion (p.key.val ++ Octets.ofNat 8 n.toNat)

/-- The party that a text names. -/
def ofText? (t : Text) : Option Party :=
  match Key.ofAccountId? t with
  | some key => some (ofKey key)
  | none => do
    let b ← Key.decode? 40 Key.subaccountVersion t
    pure ⟨⟨b.val.take 32, by simp [b.property]⟩, some (UInt64.ofNat (Octets.toNat (b.val.drop 32)))⟩

end Party

end Remittance
