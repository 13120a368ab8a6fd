import Remittance.Text.CodePage
import Remittance.Text.Form

/-!
# Character sets

The texts that octets spell in a character set with a name: UTF-8, UTF-16, UTF-32 and pages of 256
characters. Where a set is unknown or the octets spell no text in it, each octet is read as the
character of its number.
-/

set_option autoImplicit false

namespace Remittance.Charset

/-- One character for each octet, the one of its number. -/
def latin (b : Octets) : List Char := b.map fun o => Char.ofNat o.toNat

/-- Which octet of a number comes first. -/
inductive Order where
  | little
  | big
deriving DecidableEq

/-- The number that octets spell in an order. -/
def Order.number : Order → Octets → Nat
  | .little, b => Octets.toNatLittle b
  | .big, b => Octets.toNat b

/-- The octets by `width`, of which the last are fewer if they do not go up. -/
def groups (width : Nat) : (fuel : Nat) → Octets → List Octets
  | 0, _ => []
  | fuel + 1, b => if b.isEmpty then [] else b.take width :: groups width fuel (b.drop width)

/-- The numbers that octets spell by `width`. -/
def numbers? (order : Order) (width : Nat) (b : Octets) : Option (List Nat) :=
  if b.length % width = 0 then some ((groups width b.length b).map order.number) else none

/-- The character of a number, if it is one. -/
def char? (n : Nat) : Option Char := if n.isValidChar then some (Char.ofNat n) else none

/-- The characters that units of 16 bits spell. -/
def ofUnits16? : List Nat → Option (List Char)
  | [] => some []
  | [n] => (char? n).map fun c => [c]
  | n :: m :: rest =>
    if 0xD800 ≤ n ∧ n < 0xDC00 then
      if 0xDC00 ≤ m ∧ m < 0xE000 then do
        let c ← char? (0x10000 + (n - 0xD800) * 0x400 + (m - 0xDC00))
        let more ← ofUnits16? rest
        pure (c :: more)
      else none
    else do
      let c ← char? n
      let more ← ofUnits16? (m :: rest)
      pure (c :: more)

/-- The text of octets in UTF-16. -/
def utf16? (order : Order) (b : Octets) : Option String :=
  ((numbers? order 2 b).bind ofUnits16?).map String.ofList

/-- The text of octets in UTF-32. -/
def utf32? (order : Order) (b : Octets) : Option String :=
  ((numbers? order 4 b).bind fun ns => ns.mapM char?).map String.ofList

/-- The text of octets whose order a mark in front may tell; without a mark it is `little`. -/
def marked? (width : Nat) (decode : Order → Octets → Option String) (b : Octets) : Option String :=
  if Order.little.number (b.take width) = 0xFEFF ∧ width ≤ b.length then
    decode .little (b.drop width)
  else if Order.big.number (b.take width) = 0xFEFF ∧ width ≤ b.length then
    decode .big (b.drop width)
  else decode .little b

/-- The text of octets in UTF-8. -/
def utf8? (b : Octets) : Option String := (Utf8.decode b).toOption

/-- The text of octets in UTF-8, in front of which a mark may stand. -/
def markedUtf8? (b : Octets) : Option String :=
  utf8? (if [0xEF, 0xBB, 0xBF].isPrefixOf b then b.drop 3 else b)

/-- A name in lower case, in which each run of other characters than letters, digits and points is
one underscore, with none at the ends. -/
def normalized (name : String) : String :=
  let plain := name.toList.map fun c => if c.isAlphanum || c == '.' then c.toLower else ' '
  let words := (Form.splitAt ' ' plain).filter fun word => !word.isEmpty
  String.intercalate "_" (words.map String.ofList)

/-- The readers of the sets that are no pages, by name. -/
def readers : List (List String × (Octets → Option String)) := [
  (["utf_8", "u8", "utf", "utf8", "utf8_ucs2", "utf8_ucs4", "cp65001"], utf8?),
  (["utf_8_sig"], markedUtf8?),
  (["utf_16", "u16", "utf16"], marked? 2 utf16?),
  (["utf_16_le", "unicodelittleunmarked", "utf_16le"], utf16? .little),
  (["utf_16_be", "unicodebigunmarked", "utf_16be"], utf16? .big),
  (["utf_32", "u32", "utf32"], marked? 4 utf32?),
  (["utf_32_le", "utf_32le"], utf32? .little),
  (["utf_32_be", "utf_32be"], utf32? .big)]

/-- Whether a name is one of a set's names; in all but the first, points may stand for the
underscores. -/
def isNamed (name : String) (names : List String) : Bool :=
  names.contains name || names.tail.contains (name.map fun c => if c = '.' then '_' else c)

/-- The reader of the set with a name, if it is known. -/
def reader? (name : String) : Option (Octets → Option String) :=
  let name := normalized name
  match readers.find? fun r => isNamed name r.1 with
  | some r => some r.2
  | none => (CodePage.all.find? fun p => isNamed name p.names).map CodePage.decode?

/-- The text of octets in the set with a name. -/
def decode (name : String) (b : Octets) : String :=
  ((reader? name).bind fun read => read b).getD (String.ofList (latin b))

end Remittance.Charset
