import Remittance.Ledger.Key

/-!
# Assets

What a request asks for is the native asset or a code with an issuer, both texts as given. What the
ledger holds is the native asset or a checked code with the key of an issuer.
-/

set_option autoImplicit false

namespace Remittance

/-- An asset as it was asked for. -/
inductive Asset where
  | native
  | credit (code issuer : Text)
deriving DecidableEq

/-- Whether characters are an asset code: one to twelve ASCII letters and digits. -/
def isAssetCode (cs : List Char) : Bool :=
  1 ≤ cs.length && cs.length ≤ 12 && cs.all Char.isAlphanum

/-- An asset code. -/
abbrev AssetCode := { cs : List Char // isAssetCode cs = true }

/-- The asset code that a text gives. -/
def AssetCode.ofText? (t : Text) : Option AssetCode := do
  let s ← t.string?
  if h : isAssetCode s.toList = true then some ⟨s.toList, h⟩ else none

/-- An asset of the ledger. -/
inductive LedgerAsset where
  | native
  | credit (code : AssetCode) (issuer : Key)
deriving DecidableEq

/-- Whether the code of an asset takes the short form: at most four characters. -/
def AssetCode.isShort (code : AssetCode) : Bool := code.val.length ≤ 4

/-- The order of the assets of a pool: the native one first, then short codes, then by code and by
the text of the issuer. -/
def LedgerAsset.precedes : LedgerAsset → LedgerAsset → Bool
  | .native, .native => false
  | .native, .credit .. => true
  | .credit .., .native => false
  | .credit c i, .credit c' i' =>
    if c.isShort == c'.isShort then
      if c = c' then decide (i.accountId < i'.accountId)
      else decide (String.ofList c.val < String.ofList c'.val)
    else c.isShort

end Remittance
