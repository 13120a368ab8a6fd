import Remittance.Ledger.Wire
import Remittance.Text.Utf8

/-!
# Transactions

A transaction as the library works with it, and its ways to the wire and back. The way there fails
for a fee that does not fit its word, the way back where a part makes no sense to the ledger. Of the
two spellings of an asset code on the wire, the one for its length is written.
-/

set_option autoImplicit false

namespace Remittance

/-- From when to when a transaction is valid, in seconds; an end of zero is open. -/
structure TimeBounds where
  min : Nat
  max : Nat
  ordered : max = 0 ∨ min ≤ max
deriving DecidableEq

namespace TimeBounds

/-- Why two numbers are no time bounds. -/
inductive Rejection where
  | negativeMin
  | negativeMax
  | reversed
deriving DecidableEq

/-- The wording of a rejection. -/
def Rejection.message : Rejection → String
  | .negativeMin => "min_time cannot be negative."
  | .negativeMax => "max_time cannot be negative."
  | .reversed => "min_time cannot be greater than max_time."

/-- Bounds that are open at both ends. -/
def always : TimeBounds := ⟨0, 0, .inl rfl⟩

/-- The time bounds of two numbers. -/
def ofInts (min max : Int) : Except Rejection TimeBounds :=
  if min < 0 then .error .negativeMin
  else if max < 0 then .error .negativeMax
  else if h : max.toNat = 0 ∨ min.toNat ≤ max.toNat then .ok ⟨min.toNat, max.toNat, h⟩
  else .error .reversed

end TimeBounds

/-- Conditions beyond time bounds; any of them may be open. -/
structure Limits where
  time : Option TimeBounds
  ledgers : Option Wire.LedgerBounds
  minSequence : Option Int64
  minAge : UInt64
  minGap : UInt32
  signers : { l : List Wire.Signer // l.length ≤ 2 }
deriving DecidableEq

/-- When a transaction is valid. -/
inductive Conditions where
  | none
  | time (bounds : TimeBounds)
  | all (limits : Limits)
deriving DecidableEq

/-- Conditions with time bounds alone, which may be absent. -/
def Conditions.ofTime : Option TimeBounds → Conditions
  | .none => .none
  | some t => .time t

/-- A transaction. -/
structure Transaction where
  source : Party
  fee : Int
  sequence : Int64
  conditions : Conditions
  memo : LedgerMemo
  operations : { l : List (Operation LedgerAsset) // l.length ≤ 100 }
  ending : Option Xdr.Part
deriving DecidableEq

/-- A byte string cut to `n` octets, or filled up with zeros. -/
def Block.fill (n : Nat) (b : Octets) : Block n :=
  ⟨(b ++ List.replicate n 0).take n, by simp⟩

/-- A byte string without its last zeros. -/
def Octets.withoutLastZeros (b : Octets) : Octets := (b.reverse.dropWhile (· == 0)).reverse

/-- The asset code that the octets of a wire code spell. -/
def AssetCode.ofOctets? (b : Octets) : Option AssetCode :=
  let cs := (Octets.withoutLastZeros b).map fun o => Char.ofNat o.toNat
  if h : isAssetCode cs = true then some ⟨cs, h⟩ else none

/-- The octets of an asset code. -/
def AssetCode.octets (code : AssetCode) : Octets := code.val.map fun c => UInt8.ofNat c.toNat

/-- An asset on the wire; the length of its code decides the form. -/
def LedgerAsset.toWire : LedgerAsset → Wire.Asset
  | .native => .native
  | .credit code issuer =>
    if code.isShort then .short (Block.fill 4 code.octets) issuer
    else .long (Block.fill 12 code.octets) issuer

/-- The asset of a wire form, if its code is one. -/
def LedgerAsset.ofWire? : Wire.Asset → Option LedgerAsset
  | .native => some .native
  | .short code issuer => (AssetCode.ofOctets? code.val).map fun c => .credit c issuer
  | .long code issuer => (AssetCode.ofOctets? code.val).map fun c => .credit c issuer

/-- Whether the ledger makes sense of an action: its amounts are not negative, the name of a data
entry is text, and the assets of a pool are in order and its fee is the one there is. An action of
another kind was judged by its reader. -/
def Action.isSound : Action LedgerAsset → Bool
  | .createAccount _ n => 0 ≤ n
  | .payment _ _ n => 0 ≤ n
  | .pathReceive _ n _ _ m _ => 0 ≤ n && 0 ≤ m
  | .pathSend _ n _ _ m _ => 0 ≤ n && 0 ≤ m
  | .changeTrust line n => 0 ≤ n && (match line with
    | .asset _ => true
    | .pool a b fee => a.precedes b && fee == 30)
  | .accountMerge _ => true
  | .inflation => true
  | .manageData name _ => (Utf8.decode name.val).toOption.isSome
  | .bumpSequence _ => true
  | .foreign _ => true

/-- The operation of a wire form, if the ledger makes sense of it. -/
def Operation.ofWire? (op : Operation Wire.Asset) : Option (Operation LedgerAsset) := do
  let op ← op.mapAssets? LedgerAsset.ofWire?
  if op.action.isSound then some op else none

/-- Time bounds on the wire; of an end that does not fit, the last 64 bits are written. -/
def TimeBounds.toWire (t : TimeBounds) : Wire.TimeBounds := ⟨UInt64.ofNat t.min, UInt64.ofNat t.max⟩

/-- The time bounds of a wire form, if they are in order. -/
def TimeBounds.ofWire? (t : Wire.TimeBounds) : Option TimeBounds :=
  (TimeBounds.ofInts t.min.toNat t.max.toNat).toOption

/-- Whether ledger bounds are in order; an end of zero is open. -/
def Wire.LedgerBounds.isOrdered (b : Wire.LedgerBounds) : Bool := b.max == 0 || b.min ≤ b.max

/-- An optional value changed, or nothing if it is there and has no change. -/
def someOrAbsent {A B : Type} (f : A → Option B) : Option A → Option (Option B)
  | none => some none
  | some a => (f a).map some

/-- Conditions on the wire. -/
def Conditions.toWire : Conditions → Wire.Conditions
  | .none => .none
  | .time t => .time t.toWire
  | .all l =>
    .all ⟨l.time.map TimeBounds.toWire, l.ledgers, l.minSequence, l.minAge, l.minGap, l.signers⟩

/-- The conditions of a wire form, if their bounds are in order. -/
def Conditions.ofWire? : Wire.Conditions → Option Conditions
  | .none => some .none
  | .time t => (TimeBounds.ofWire? t).map .time
  | .all l => do
    let time ← someOrAbsent TimeBounds.ofWire? l.time
    if (l.ledgers.map Wire.LedgerBounds.isOrdered).getD true then
      some (.all ⟨time, l.ledgers, l.minSequence, l.minAge, l.minGap, l.signers⟩)
    else Option.none

namespace Transaction

/-- The transaction on the wire, if its fee fits. -/
def toWire? (t : Transaction) : Option Wire.Transaction := do
  let operations ← allSomeUpTo (fun op => op.mapAssets? fun a => some a.toWire) t.operations
  if 0 ≤ t.fee ∧ t.fee < 0x100000000 then
    some ⟨t.source, UInt32.ofNat t.fee.toNat, t.sequence, t.conditions.toWire, t.memo, operations,
      t.ending⟩
  else none

/-- The transaction of a wire form, if the ledger makes sense of all its parts. -/
def ofWire? (w : Wire.Transaction) : Option Transaction := do
  let conditions ← Conditions.ofWire? w.conditions
  let operations ← allSomeUpTo Operation.ofWire? w.operations
  some ⟨w.source, w.fee.toNat, w.sequence, conditions, w.memo, operations, w.ending⟩

/-- The octets of a transaction, if it fits the wire. -/
def encode? (t : Transaction) : Option Octets := t.toWire?.map Wire.Transaction.octets

/-- The transaction that octets spell. -/
def decode? (f : Wire.Foreign) (b : Octets) : Option Transaction :=
  (Wire.transaction f).readAll? b >>= ofWire?

end Transaction

end Remittance
