import Remittance.Ledger.Asset
import Remittance.Ledger.Party
import Remittance.Xdr.Format

/-!
# Operations

The operations of ledger transactions, over any form of the assets in them. Those that this library
knows have all their parts; one of another kind is its tag and its octets. Amounts are signed words
here, as on the wire; which of them are sound is decided elsewhere.
-/

set_option autoImplicit false

namespace Remittance

/-- What an account begins to trust: an asset, or the shares of a pool of two assets. -/
inductive TrustLine (A : Type) where
  | asset (asset : A)
  | pool (first second : A) (fee : Int32)
deriving DecidableEq

/-- What an operation does. -/
inductive Action (A : Type) where
  | createAccount (destination : Key) (balance : Int64)
  | payment (destination : Party) (asset : A) (amount : Int64)
  | pathReceive (sendAsset : A) (sendMax : Int64) (destination : Party) (destAsset : A)
      (destAmount : Int64) (path : { l : List A // l.length ≤ 5 })
  | pathSend (sendAsset : A) (sendAmount : Int64) (destination : Party) (destAsset : A)
      (destMin : Int64) (path : { l : List A // l.length ≤ 5 })
  | changeTrust (line : TrustLine A) (limit : Int64)
  | accountMerge (destination : Party)
  | inflation
  | manageData (name : BlockUpTo 64) (value : Option (BlockUpTo 64))
  | bumpSequence (target : Int64)
  | foreign (part : Xdr.Part)
deriving DecidableEq

/-- An action, perhaps by another party than the source of the transaction. -/
structure Operation (A : Type) where
  source : Option Party
  action : Action A
deriving DecidableEq

/-- The part of a kind of its own that an action is, if it is one. -/
def Action.foreign? {A : Type} : Action A → Option Xdr.Part
  | .foreign part => some part
  | _ => none

/-- The list with each member changed, or nothing if one member has no change. -/
def allSome {A B : Type} (f : A → Option B) : List A → Option (List B)
  | [] => some []
  | a :: rest => do
    let b ← f a
    let more ← allSome f rest
    pure (b :: more)

/-- No member is left out. -/
theorem length_of_allSome {A B : Type} {f : A → Option B} {l : List A} {m : List B}
    (h : allSome f l = some m) : m.length = l.length := by
  induction l generalizing m with
  | nil => simp [allSome] at h; simp [← h]
  | cons a rest ih =>
    simp only [allSome, Option.bind_eq_bind, Option.bind_eq_some_iff, Option.pure_def,
      Option.some.injEq] at h
    obtain ⟨b, _, more, hm, rfl⟩ := h
    simp [ih hm]

/-- `allSome` for a list of limited length. -/
def allSomeUpTo {A B : Type} {n : Nat} (f : A → Option B) (l : { l : List A // l.length ≤ n }) :
    Option { l : List B // l.length ≤ n } :=
  match h : allSome f l.val with
  | none => none
  | some m => some ⟨m, (length_of_allSome h).symm ▸ l.property⟩

/-- The trust line with its assets in another form. -/
def TrustLine.mapAssets? {A B : Type} (f : A → Option B) : TrustLine A → Option (TrustLine B)
  | .asset a => (f a).map .asset
  | .pool a b fee => do pure (.pool (← f a) (← f b) fee)

/-- The action with its assets in another form. -/
def Action.mapAssets? {A B : Type} (f : A → Option B) : Action A → Option (Action B)
  | .createAccount d n => some (.createAccount d n)
  | .payment d a n => (f a).map fun a => .payment d a n
  | .pathReceive a n d b m path => do
    pure (.pathReceive (← f a) n d (← f b) m (← allSomeUpTo f path))
  | .pathSend a n d b m path => do
    pure (.pathSend (← f a) n d (← f b) m (← allSomeUpTo f path))
  | .changeTrust line n => (line.mapAssets? f).map fun line => .changeTrust line n
  | .accountMerge d => some (.accountMerge d)
  | .inflation => some .inflation
  | .manageData name value => some (.manageData name value)
  | .bumpSequence n => some (.bumpSequence n)
  | .foreign part => some (.foreign part)

/-- The operation with its assets in another form. -/
def Operation.mapAssets? {A B : Type} (f : A → Option B) (op : Operation A) :
    Option (Operation B) :=
  (op.action.mapAssets? f).map fun action => ⟨op.source, action⟩

end Remittance
