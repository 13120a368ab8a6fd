import Remittance.Text.Octets

/-!
# External data representation

A format writes values of a type as octets and reads them back from the beginning of an input. The
formats of the standard are built here: words, byte strings filled up to a multiple of four octets,
counted lists, optional values and tagged unions. What fills up a byte string is passed over by the
reader and zero from the writer.
-/

set_option autoImplicit false

namespace Remittance.Xdr

/-- How values of a type are written and read. -/
structure Format (α : Type) where
  write : α → Octets
  read : Octets → Option (α × Octets)

/-- The first `n` octets and the rest. -/
def takeBlock? (n : Nat) (b : Octets) : Option (Block n × Octets) :=
  if h : (b.take n).length = n then some (⟨b.take n, h⟩, b.drop n) else none

/-- The count of octets that fill up `n` octets to a multiple of four. -/
def padding (n : Nat) : Nat := (4 - n % 4) % 4

namespace Format

/-- No octets at all for one value. -/
def const {α : Type} (a : α) : Format α where
  write _ := []
  read b := some (a, b)

/-- The values of a format under another description. -/
def map {α β : Type} (f : Format α) (back : β → α) (of : α → β) : Format β where
  write b := f.write (back b)
  read input := (f.read input).map fun r => (of r.1, r.2)

/-- One value after another. -/
def pair {α β : Type} (f : Format α) (g : Format β) : Format (α × β) where
  write p := f.write p.1 ++ g.write p.2
  read input := do
    let (a, rest) ← f.read input
    let (b, rest) ← g.read rest
    pure ((a, b), rest)

/-- `n` octets, filled up. -/
def block (n : Nat) : Format (Block n) where
  write b := b.val ++ List.replicate (padding n) 0
  read input := do
    let (b, rest) ← takeBlock? n input
    let (_, rest) ← takeBlock? (padding n) rest
    pure (b, rest)

/-- A word of 32 bits. -/
def word : Format UInt32 where
  write n := Octets.ofNat 4 n.toNat
  read input := (takeBlock? 4 input).map fun r => (UInt32.ofNat (Octets.toNat r.1.val), r.2)

/-- A word of 64 bits. -/
def long : Format UInt64 where
  write n := Octets.ofNat 8 n.toNat
  read input := (takeBlock? 8 input).map fun r => (UInt64.ofNat (Octets.toNat r.1.val), r.2)

/-- A signed word of 32 bits. -/
def signedWord : Format Int32 := word.map Int32.toUInt32 UInt32.toInt32

/-- A signed word of 64 bits. -/
def signedLong : Format Int64 := long.map Int64.toUInt64 UInt64.toInt64

/-- A count and so many octets, at most `max`, filled up. -/
def sized (max : Nat) : Format (BlockUpTo max) where
  write b := word.write (UInt32.ofNat b.val.length) ++
    (b.val ++ List.replicate (padding b.val.length) 0)
  read input := do
    let (n, rest) ← word.read input
    if h : n.toNat ≤ max then
      let (b, rest) ← (block n.toNat).read rest
      pure (⟨b.val, by rw [b.property]; exact h⟩, rest)
    else none

/-- `n` values in a row. -/
def readMany {α : Type} (f : Format α) :
    (n : Nat) → Octets → Option ({ l : List α // l.length = n } × Octets)
  | 0, input => some (⟨[], rfl⟩, input)
  | n + 1, input => do
    let (a, rest) ← f.read input
    let (l, rest) ← readMany f n rest
    pure (⟨a :: l.val, by simp [l.property]⟩, rest)

/-- A count and so many values, at most `max`. -/
def listUpTo {α : Type} (max : Nat) (f : Format α) : Format { l : List α // l.length ≤ max } where
  write l := word.write (UInt32.ofNat l.val.length) ++ l.val.flatMap f.write
  read input := do
    let (n, rest) ← word.read input
    if h : n.toNat ≤ max then
      let (l, rest) ← readMany f n.toNat rest
      pure (⟨l.val, by rw [l.property]; exact h⟩, rest)
    else none

/-- A value that may be missing, after a word that says whether it is there. -/
def optional {α : Type} (f : Format α) : Format (Option α) where
  write
    | none => word.write 0
    | some a => word.write 1 ++ f.write a
  read input := do
    let (flag, rest) ← word.read input
    if flag = 0 then pure (none, rest)
    else if flag = 1 then
      let (a, rest) ← f.read rest
      pure (some a, rest)
    else none

end Format

/-- One case of a tagged union: its tag, the format of its body, and which values have this case. -/
structure Arm (α : Type) where
  tag : UInt32
  Body : Type
  format : Format Body
  project : α → Option Body
  inject : Body → α

/-- A case without a body. -/
def Arm.unit {α : Type} [DecidableEq α] (tag : UInt32) (a : α) : Arm α where
  tag := tag
  Body := Unit
  format := Format.const ()
  project x := if x = a then some () else none
  inject _ := a

/-- A value as the first case that it has. -/
def writeArms {α : Type} (a : α) : List (Arm α) → Octets
  | [] => []
  | arm :: arms =>
    match arm.project a with
    | some body => Format.word.write arm.tag ++ arm.format.write body
    | none => writeArms a arms

/-- The body of the case with a tag. -/
def readArms {α : Type} (tag : UInt32) (input : Octets) : List (Arm α) → Option (α × Octets)
  | [] => none
  | arm :: arms =>
    if tag = arm.tag then (arm.format.read input).map fun r => (arm.inject r.1, r.2)
    else readArms tag input arms

/-- A tag and the case that it names. -/
def Format.union {α : Type} (arms : List (Arm α)) : Format α where
  write a := writeArms a arms
  read input := do
    let (tag, rest) ← Format.word.read input
    readArms tag rest arms

/-- A part of a kind of its own: the tag of the kind, and the octets that spell the part. -/
structure Part where
  tag : UInt32
  body : Octets
deriving DecidableEq

/-- How parts of kinds of their own are read: after the tag, the octets that spell the part, which
need not be those that were read, and the rest of the input. -/
abbrev PartReader := UInt32 → Octets → Option (Octets × Octets)

/-- A tagged union that is open: a tag that names no case is left to a reader of parts. -/
def Format.openUnion {α : Type} (arms : List (Arm α)) (part? : α → Option Part) (ofPart : Part → α)
    (other : PartReader) : Format α where
  write a :=
    match part? a with
    | some p => Format.word.write p.tag ++ p.body
    | none => writeArms a arms
  read input := do
    let (tag, rest) ← Format.word.read input
    if arms.any fun arm => arm.tag == tag then readArms tag rest arms
    else (other tag rest).map fun r => (ofPart ⟨tag, r.1⟩, r.2)

/-- The value that the whole input spells. -/
def Format.readAll? {α : Type} (f : Format α) (input : Octets) : Option α :=
  match f.read input with
  | some (a, []) => some a
  | _ => none

end Remittance.Xdr
