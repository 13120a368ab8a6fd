import Remittance.Xdr.Format
import Remittance.Ledger.Operation
import Remittance.Ledger.Memo

/-!
# Transactions on the wire

The binary layout of a ledger transaction. All words are in range and all lengths within their
limits by their types, so every value of these types can be written. Parts whose kinds this library
does not know are read by readers of their own.
-/

set_option autoImplicit false

namespace Remittance.Wire

open Xdr

/-- An asset with its code in one of two fixed lengths, filled up with zeros. -/
inductive Asset where
  | native
  | short (code : Block 4) (issuer : Key)
  | long (code : Block 12) (issuer : Key)
deriving DecidableEq

/-- From when to when a transaction is valid, in seconds; an end of zero is open. -/
structure TimeBounds where
  min : UInt64
  max : UInt64
deriving DecidableEq

/-- From which to which ledger a transaction is valid. -/
structure LedgerBounds where
  min : UInt32
  max : UInt32
deriving DecidableEq

/-- Who must sign besides the accounts concerned. -/
inductive Signer where
  | key (octets : Block 32)
  | preAuthorized (octets : Block 32)
  | hash (octets : Block 32)
  | payload (key : Block 32) (payload : BlockUpTo 64)
deriving DecidableEq

/-- All conditions that a transaction can set. -/
structure Limits where
  time : Option TimeBounds
  ledgers : Option LedgerBounds
  minSequence : Option Int64
  minAge : UInt64
  minGap : UInt32
  signers : { l : List Signer // l.length ≤ 2 }
deriving DecidableEq

/-- When a transaction is valid. -/
inductive Conditions where
  | none
  | time (bounds : TimeBounds)
  | all (limits : Limits)
deriving DecidableEq

/-- A transaction. -/
structure Transaction where
  source : Party
  fee : UInt32
  sequence : Int64
  conditions : Conditions
  memo : LedgerMemo
  operations : { l : List (Operation Asset) // l.length ≤ 100 }
  ending : Option Part
deriving DecidableEq

/-- How the parts of a transaction are read whose kinds this library does not know: operations, and
what may stand at the end of a transaction. -/
structure Foreign where
  operation : PartReader
  ending : PartReader

/-- No part of an unknown kind is read. -/
def Foreign.none : Foreign := ⟨fun _ _ => Option.none, fun _ _ => Option.none⟩

/-- A public key after the tag of its only kind. -/
def key : Format Key :=
  .union [{
    tag := 0, Body := Key, format := .block 32
    project := some
    inject := id }]

/-- A party: a key, or a sub-account number and a key. -/
def party : Format Party :=
  .union [
    { tag := 0, Body := Key, format := .block 32
      project := fun p => if p.subaccount = none then some p.key else none
      inject := Party.ofKey },
    { tag := 0x100, Body := UInt64 × Key, format := Format.long.pair (.block 32)
      project := fun p => p.subaccount.map fun n => (n, p.key)
      inject := fun b => ⟨b.2, some b.1⟩ }]

/-- An asset. -/
def asset : Format Asset :=
  .union [
    .unit 0 .native,
    { tag := 1, Body := Block 4 × Key, format := (Format.block 4).pair key
      project := fun | .short c i => some (c, i) | _ => none
      inject := fun b => .short b.1 b.2 },
    { tag := 2, Body := Block 12 × Key, format := (Format.block 12).pair key
      project := fun | .long c i => some (c, i) | _ => none
      inject := fun b => .long b.1 b.2 }]

/-- The assets and the fee of a pool, after the tag of its only kind. -/
def pool : Format (Asset × Asset × Int32) :=
  .union [{
    tag := 0, Body := Asset × Asset × Int32, format := asset.pair (asset.pair .signedWord)
    project := some
    inject := id }]

/-- A trust line: the cases of an asset, and a pool. -/
def trustLine : Format (TrustLine Asset) :=
  .union [
    .unit 0 (.asset .native),
    { tag := 1, Body := Block 4 × Key, format := (Format.block 4).pair key
      project := fun | .asset (.short c i) => some (c, i) | _ => none
      inject := fun b => .asset (.short b.1 b.2) },
    { tag := 2, Body := Block 12 × Key, format := (Format.block 12).pair key
      project := fun | .asset (.long c i) => some (c, i) | _ => none
      inject := fun b => .asset (.long b.1 b.2) },
    { tag := 3, Body := Asset × Asset × Int32, format := pool
      project := fun | .pool a b fee => some (a, b, fee) | _ => none
      inject := fun b => .pool b.1 b.2.1 b.2.2 }]

/-- The members of both kinds of payment along a path. -/
abbrev PathBody := Asset × Int64 × Party × Asset × Int64 × { l : List Asset // l.length ≤ 5 }

/-- A payment along a path. -/
def pathBody : Format PathBody :=
  asset.pair (Format.signedLong.pair (party.pair (asset.pair (Format.signedLong.pair
    (.listUpTo 5 asset)))))

/-- The cases of an action that are known. -/
def actionArms : List (Arm (Action Asset)) :=
  [
    { tag := 0, Body := Key × Int64, format := key.pair .signedLong
      project := fun | .createAccount d n => some (d, n) | _ => none
      inject := fun b => .createAccount b.1 b.2 },
    { tag := 1, Body := Party × Asset × Int64, format := party.pair (asset.pair .signedLong)
      project := fun | .payment d a n => some (d, a, n) | _ => none
      inject := fun b => .payment b.1 b.2.1 b.2.2 },
    { tag := 2, Body := PathBody, format := pathBody
      project := fun | .pathReceive a n d b m p => some (a, n, d, b, m, p) | _ => none
      inject := fun b => .pathReceive b.1 b.2.1 b.2.2.1 b.2.2.2.1 b.2.2.2.2.1 b.2.2.2.2.2 },
    { tag := 6, Body := TrustLine Asset × Int64, format := trustLine.pair .signedLong
      project := fun | .changeTrust l n => some (l, n) | _ => none
      inject := fun b => .changeTrust b.1 b.2 },
    { tag := 8, Body := Party, format := party
      project := fun | .accountMerge d => some d | _ => none
      inject := .accountMerge },
    .unit 9 .inflation,
    { tag := 10, Body := BlockUpTo 64 × Option (BlockUpTo 64)
      format := (Format.sized 64).pair (.optional (.sized 64))
      project := fun | .manageData n v => some (n, v) | _ => none
      inject := fun b => .manageData b.1 b.2 },
    { tag := 11, Body := Int64, format := .signedLong
      project := fun | .bumpSequence n => some n | _ => none
      inject := .bumpSequence },
    { tag := 13, Body := PathBody, format := pathBody
      project := fun | .pathSend a n d b m p => some (a, n, d, b, m, p) | _ => none
      inject := fun b => .pathSend b.1 b.2.1 b.2.2.1 b.2.2.2.1 b.2.2.2.2.1 b.2.2.2.2.2 }]

/-- An action. -/
def action (f : Foreign) : Format (Action Asset) :=
  .openUnion actionArms Action.foreign? .foreign f.operation

/-- An operation. -/
def operation (f : Foreign) : Format (Operation Asset) :=
  ((Format.optional party).pair (action f)).map (fun op => (op.source, op.action)) fun p =>
    ⟨p.1, p.2⟩

/-- Time bounds. -/
def timeBounds : Format TimeBounds :=
  (Format.long.pair .long).map (fun t => (t.min, t.max)) fun p => ⟨p.1, p.2⟩

/-- Ledger bounds. -/
def ledgerBounds : Format LedgerBounds :=
  (Format.word.pair .word).map (fun t => (t.min, t.max)) fun p => ⟨p.1, p.2⟩

/-- A further signer. -/
def signer : Format Signer :=
  .union [
    { tag := 0, Body := Block 32, format := .block 32
      project := fun | .key b => some b | _ => none
      inject := .key },
    { tag := 1, Body := Block 32, format := .block 32
      project := fun | .preAuthorized b => some b | _ => none
      inject := .preAuthorized },
    { tag := 2, Body := Block 32, format := .block 32
      project := fun | .hash b => some b | _ => none
      inject := .hash },
    { tag := 3, Body := Block 32 × BlockUpTo 64, format := (Format.block 32).pair (.sized 64)
      project := fun | .payload k b => some (k, b) | _ => none
      inject := fun b => .payload b.1 b.2 }]

/-- All conditions. -/
def limits : Format Limits :=
  ((Format.optional timeBounds).pair ((Format.optional ledgerBounds).pair
    ((Format.optional .signedLong).pair (Format.long.pair (Format.word.pair
      (.listUpTo 2 signer)))))).map
    (fun l => (l.time, l.ledgers, l.minSequence, l.minAge, l.minGap, l.signers))
    fun p => ⟨p.1, p.2.1, p.2.2.1, p.2.2.2.1, p.2.2.2.2.1, p.2.2.2.2.2⟩

/-- Conditions. -/
def conditions : Format Conditions :=
  .union [
    .unit 0 .none,
    { tag := 1, Body := TimeBounds, format := timeBounds
      project := fun | .time t => some t | _ => none
      inject := .time },
    { tag := 2, Body := Limits, format := limits
      project := fun | .all l => some l | _ => none
      inject := .all }]

/-- A memo. -/
def memo : Format LedgerMemo :=
  .union [
    .unit 0 .none,
    { tag := 1, Body := BlockUpTo 28, format := .sized 28
      project := fun | .text b => some b | _ => none
      inject := .text },
    { tag := 2, Body := UInt64, format := .long
      project := fun | .id n => some n | _ => none
      inject := .id },
    { tag := 3, Body := Block 32, format := .block 32
      project := fun | .hash b => some b | _ => none
      inject := .hash },
    { tag := 4, Body := Block 32, format := .block 32
      project := fun | .returnHash b => some b | _ => none
      inject := .returnHash }]

/-- The case of the end of a transaction that is known: nothing but a tag. -/
def endingArms : List (Arm (Option Part)) := [.unit 0 none]

/-- The end of a transaction. -/
def ending (f : Foreign) : Format (Option Part) := .openUnion endingArms id some f.ending

/-- A transaction. -/
def transaction (f : Foreign) : Format Transaction :=
  (party.pair (Format.word.pair (Format.signedLong.pair (conditions.pair (memo.pair
    ((Format.listUpTo 100 (operation f)).pair (ending f))))))).map
    (fun t => (t.source, t.fee, t.sequence, t.conditions, t.memo, t.operations, t.ending))
    fun p => ⟨p.1, p.2.1, p.2.2.1, p.2.2.2.1, p.2.2.2.2.1, p.2.2.2.2.2.1, p.2.2.2.2.2.2⟩

/-- The octets of a transaction. They do not depend on how parts of unknown kinds are read. -/
def Transaction.octets (t : Transaction) : Octets := (transaction .none).write t

end Remittance.Wire
