import Remittance.Ledger.Keypair
import Remittance.Proofs.Text.Base32

/-!
# Keys and their texts

A key has one text for each version, and a text is read as a key exactly if it is that text.
-/

set_option autoImplicit false

namespace Remittance.Key

/-- A text is read as a payload exactly if it is the text of that payload. -/
theorem decode?_eq_some_iff {n : Nat} {version : UInt8} {t : Text} {p : Block n} :
    decode? n version t = some p ↔ t = encode version p.val := by
  unfold decode? encode
  constructor
  · intro hread
    obtain ⟨s, hs, hread⟩ := Option.bind_eq_some_iff.mp hread
    obtain ⟨b, hb, hrest⟩ := Option.bind_eq_some_iff.mp hread
    obtain rfl := Text.string?_eq_some_iff.mp hs
    dsimp only at hrest
    split at hrest
    · split at hrest
      · rename_i hlength hbody
        cases hrest
        dsimp only
        rw [← hbody, Base32.encode_of_decode? hb]
      · cases hrest
    · cases hrest
  · rintro rfl
    have hpayload : (((version :: p.val) ++
        Octets.ofNatLittle 2 (checksum (version :: p.val))).drop 1).take n = p.val := by
      simp [p.property]
    rw [Text.string?_ofString]
    simp only [Option.bind_eq_bind, Option.bind_some]
    rw [Base32.decode?_encode]
    simp only [Option.bind_some]
    rw [dif_pos (by rw [hpayload, p.property]), if_pos (by rw [hpayload])]
    exact congrArg some (Subtype.ext hpayload)

/-- A text names an account by a key exactly if it is the account id of the key. -/
theorem ofAccountId?_eq_some_iff {t : Text} {key : Key} :
    ofAccountId? t = some key ↔ t = key.accountId :=
  decode?_eq_some_iff

/-- The account id of a key names it. -/
theorem ofAccountId?_accountId (key : Key) : ofAccountId? key.accountId = some key :=
  ofAccountId?_eq_some_iff.mpr rfl

/-- Two keys have different account ids. -/
theorem accountId_injective {key key' : Key} (heq : key.accountId = key'.accountId) :
    key = key' := by
  have hread := ofAccountId?_accountId key
  rw [heq, ofAccountId?_accountId] at hread
  exact (Option.some.inj hread).symm

/-- A text is taken for an account id exactly if it is that of a key. -/
theorem isAccountId_iff {t : Text} : isAccountId t = true ↔ ∃ key : Key, t = key.accountId := by
  rw [isAccountId, Option.isSome_iff_exists]
  exact exists_congr fun key => ofAccountId?_eq_some_iff

/-- The account id of a key is one. -/
theorem isAccountId_accountId (key : Key) : isAccountId key.accountId = true := by
  rw [isAccountId, ofAccountId?_accountId]
  rfl

end Remittance.Key
