import Remittance.Json.Value
import Remittance.Decimal.Shortest
import Remittance.Text.CodePoint

/-!
# Writing JSON

Code points from U+0020 on are written as they are, except the quote and the backslash; controls are
written by letter or number. Numbers that are not finite are written `NaN`, `Infinity` and
`-Infinity`.
-/

set_option autoImplicit false

namespace Remittance.Json

/-- What is written between items and between a name and its value. -/
structure Layout where
  comma : List Char
  colon : List Char

/-- No spaces. -/
def Layout.compact : Layout := ⟨[','], [':']⟩

/-- One space after each comma and colon. -/
def Layout.spaced : Layout := ⟨[',', ' '], [':', ' ']⟩

/-- A character inside a quoted text. -/
def escape (c : Char) : List Char :=
  if c = '"' then ['\\', '"']
  else if c = '\\' then ['\\', '\\']
  else if c = '\n' then ['\\', 'n']
  else if c = '\r' then ['\\', 'r']
  else if c = '\t' then ['\\', 't']
  else if c.toNat = 8 then ['\\', 'b']
  else if c.toNat = 12 then ['\\', 'f']
  else if c.toNat < 32 then
    ['\\', 'u', '0', '0', Octets.hexDigit (c.toNat / 16), Octets.hexDigit (c.toNat % 16)]
  else [c]

/-- A code point inside a quoted text. -/
def escapeCode : CodePoint → List CodePoint
  | .char c => (escape c).map .char
  | .half place => [.half place]

/-- A text between quotes. -/
def quoted (t : Text) : List CodePoint := .char '"' :: t.codes.flatMap escapeCode ++ [.char '"']

/-- A floating-point number. -/
def number : Binary64 → List Char
  | .undefined => "NaN".toList
  | .infinite negative => (if negative then "-Infinity" else "Infinity").toList
  | x => (Shortest.text x).toList

mutual

/-- The code points of a value. -/
def codes (layout : Layout) : Json → List CodePoint
  | .null => "null".toList.map .char
  | .bool true => "true".toList.map .char
  | .bool false => "false".toList.map .char
  | .int n => (Numeral.signed n).map .char
  | .real x => (number x).map .char
  | .text t => quoted t
  | .list items => .char '[' :: itemCodes layout items ++ [.char ']']
  | .object members => .char '{' :: memberCodes layout members ++ [.char '}']

/-- The code points of the items of a list. -/
def itemCodes (layout : Layout) : List Json → List CodePoint
  | [] => []
  | [item] => codes layout item
  | item :: rest => codes layout item ++ layout.comma.map .char ++ itemCodes layout rest

/-- The code points of the members of an object. -/
def memberCodes (layout : Layout) : List (Text × Json) → List CodePoint
  | [] => []
  | [(name, value)] => quoted name ++ layout.colon.map .char ++ codes layout value
  | (name, value) :: rest =>
    quoted name ++ layout.colon.map .char ++ codes layout value ++ layout.comma.map .char ++
      memberCodes layout rest

end

/-- The text of a value. -/
def write (layout : Layout) (j : Json) : Text := ⟨codes layout j⟩

end Remittance.Json
