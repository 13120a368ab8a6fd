import Remittance.Json.Value
import Remittance.Decimal.Numeral
import Remittance.Text.Octets

/-!
# Reading JSON

The reader accepts the usual grammar and the three words `NaN`, `Infinity` and `-Infinity`. It stops
at the first fault and says at which character it stopped. A number without fraction and exponent
is an integer, whose digits are limited; of members with one name the last counts. Lists and objects
can be nested only as deep as there is room for: each of them takes one level while it is read.
-/

set_option autoImplicit false

namespace Remittance.Json

/-- What is wrong with a text. -/
inductive Fault where
  | value
  | name
  | colon
  | comma
  | unterminated
  | control
  | escape
  | unicodeEscape
  | extra
  | byteOrderMark
deriving DecidableEq

/-- The wording of a fault. -/
def Fault.message : Fault → String
  | .value => "Expecting value"
  | .name => "Expecting property name enclosed in double quotes"
  | .colon => "Expecting ':' delimiter"
  | .comma => "Expecting ',' delimiter"
  | .unterminated => "Unterminated string starting at"
  | .control => "Invalid control character at"
  | .escape => "Invalid \\escape"
  | .unicodeEscape => "Invalid \\uXXXX escape"
  | .extra => "Extra data"
  | .byteOrderMark => "Unexpected UTF-8 BOM (decode using utf-8-sig)"

/-- What was nested deeper than there is room for: a list or an object that was read, or a value
that was shown. -/
inductive Nested where
  | list
  | object
  | shown
deriving DecidableEq

/-- The wording of a want of room. -/
def Nested.message (e : Nested) : String :=
  "maximum recursion depth exceeded while " ++ match e with
    | .list => "decoding a JSON array from a unicode string"
    | .object => "decoding a JSON object from a unicode string"
    | .shown => "getting the repr of an object"

/-- Why the reader stopped: a fault with the number of characters that were left there, a numeral
with too many digits, or a want of room. -/
inductive Stop where
  | fault (kind : Fault) (left : Nat)
  | numeral (e : Numeral.TooLong)
  | nested (e : Nested)
deriving DecidableEq

/-- A fault where the characters `here` begin. -/
def stopAt {α : Type} (kind : Fault) (here : List Char) : Except Stop α :=
  .error (.fault kind here.length)

/-- Whether a character may stand between the signs of a text. -/
def isBlank (c : Char) : Bool := c == ' ' || c == '\t' || c == '\n' || c == '\r'

/-- The characters after leading blanks. -/
def skipBlanks (cs : List Char) : List Char := cs.dropWhile isBlank

/-- The number spelt by the first four characters, and the characters after them. -/
def quad? : List Char → Option (Nat × List Char)
  | a :: b :: c :: d :: rest => do
    let a ← Octets.hexValue? a
    let b ← Octets.hexValue? b
    let c ← Octets.hexValue? c
    let d ← Octets.hexValue? d
    pure (((a * 16 + b) * 16 + c) * 16 + d, rest)
  | _ => none

/-- The character that a letter after a backslash stands for. -/
def letterEscape? (c : Char) : Option Char :=
  match c with
  | '"' => some '"'
  | '\\' => some '\\'
  | '/' => some '/'
  | 'b' => some (Char.ofNat 8)
  | 'f' => some (Char.ofNat 12)
  | 'n' => some '\n'
  | 'r' => some '\r'
  | 't' => some '\t'
  | _ => none

/-- A fault at the letter in front of the digits `cs` of an escape by number. -/
def badNumber {α : Type} (cs : List Char) : Except Stop α :=
  .error (.fault .unicodeEscape (cs.length + 1))

/-- The code point of an escape by number whose digits begin the input, and what follows it. Four
digits and one more character must be there; two escapes that form a surrogate pair are one
character. -/
def numberEscape (cs : List Char) : Except Stop (CodePoint × List Char) :=
  if (cs.drop 4).isEmpty then badNumber cs
  else match quad? cs with
    | none => badNumber cs
    | some (high, rest) =>
      if 0xD800 ≤ high ∧ high ≤ 0xDBFF ∧ (rest.drop 6).isEmpty = false then
        match rest with
        | '\\' :: 'u' :: more =>
          match quad? more with
          | none => badNumber more
          | some (low, rest') =>
            if 0xDC00 ≤ low ∧ low ≤ 0xDFFF then
              .ok (Char.ofNat (0x10000 + (high - 0xD800) * 0x400 + (low - 0xDC00)), rest')
            else .ok (.ofNat high, rest)
        | _ => .ok (.ofNat high, rest)
      else .ok (.ofNat high, rest)

/-- The text up to its closing quote, and what follows it. `start` counts the characters from the
opening quote on, and `read` holds the code points read so far, last first. -/
def closeQuote (start : Nat) : (fuel : Nat) → (read : List CodePoint) → List Char →
    Except Stop (Text × List Char)
  | 0, _, _ => .error (.fault .unterminated start)
  | fuel + 1, read, cs =>
    match cs with
    | [] => .error (.fault .unterminated start)
    | '"' :: rest => .ok (⟨read.reverse⟩, rest)
    | '\\' :: rest =>
      match rest with
      | [] => .error (.fault .unterminated start)
      | 'u' :: more => do
        let (c, rest') ← numberEscape more
        closeQuote start fuel (c :: read) rest'
      | e :: more =>
        match letterEscape? e with
        | some c => closeQuote start fuel (c :: read) more
        | none => stopAt .escape cs
    | c :: rest =>
      if c.toNat < 0x20 then stopAt .control cs else closeQuote start fuel (c :: read) rest

/-- The text whose opening quote was the character before the input. -/
def readText (cs : List Char) : Except Stop (Text × List Char) :=
  closeQuote (cs.length + 1) (cs.length + 1) [] cs

/-- The digits at the beginning of the input and what follows them; a zero stands alone. -/
def wholeDigits (cs : List Char) : List Char × List Char :=
  match cs with
  | '0' :: rest => (['0'], rest)
  | _ => (cs.takeWhile Char.isDigit, cs.dropWhile Char.isDigit)

/-- The digits of a fraction at the beginning of the input, if a point and a digit stand there. -/
def fractionDigits? (cs : List Char) : Option (List Char × List Char) :=
  match cs with
  | '.' :: rest =>
    if (rest.takeWhile Char.isDigit).isEmpty then none
    else some (rest.takeWhile Char.isDigit, rest.dropWhile Char.isDigit)
  | _ => none

/-- The exponent at the beginning of the input, if one with a digit stands there. -/
def exponent? (cs : List Char) : Option (Int × List Char) :=
  match cs with
  | e :: rest =>
    if e = 'e' ∨ e = 'E' then
      let (negative, body) := match rest with
        | '-' :: body => (true, body)
        | '+' :: body => (false, body)
        | _ => (false, rest)
      let ds := body.takeWhile Char.isDigit
      if ds.isEmpty then none
      else
        let n : Int := Numeral.value ds
        some (if negative then -n else n, body.dropWhile Char.isDigit)
    else none
  | [] => none

/-- The number at the beginning of the input. -/
def readNumber (cs : List Char) : Except Stop (Json × List Char) :=
  let (negative, body) := match cs with
    | '-' :: rest => (true, rest)
    | _ => (false, cs)
  let (whole, rest) := wholeDigits body
  if whole.isEmpty then stopAt .value cs
  else
    let fraction := fractionDigits? rest
    let (part, rest) := fraction.getD ([], rest)
    let exponent := exponent? rest
    let (power, rest) := exponent.getD (0, rest)
    if fraction.isSome || exponent.isSome then
      let ds := whole ++ part
      .ok (.real (.ofDecimal negative (Numeral.value ds) ds.length (power - part.length)), rest)
    else match Numeral.read whole with
      | .ok n => .ok (.int (if negative then -(n : Int) else n), rest)
      | .error e => .error (.numeral e)

/-- The words that stand for a value. -/
def words : List (List Char × Json) :=
  [("null".toList, .null), ("true".toList, .bool true), ("false".toList, .bool false),
    ("NaN".toList, .real .undefined), ("Infinity".toList, .real (.infinite false)),
    ("-Infinity".toList, .real (.infinite true))]

/-- The word at the beginning of the input. -/
def word? (cs : List Char) : Option (Json × List Char) :=
  (words.find? fun w => w.1.isPrefixOf cs).map fun w => (w.2, cs.drop w.1.length)

mutual

/-- The value at the beginning of the input, and what follows it. Lists and objects can be nested
`room` levels deep. -/
def readValue : (fuel : Nat) → (room : Nat) → List Char → Except Stop (Json × List Char)
  | 0, _, cs => stopAt .value cs
  | fuel + 1, room, cs =>
    match cs with
    | '"' :: rest => do
      let (s, rest') ← readText rest
      pure (.text s, rest')
    | '{' :: rest =>
      match room with
      | 0 => .error (.nested .object)
      | room + 1 =>
        match skipBlanks rest with
        | '}' :: rest' => .ok (.object [], rest')
        | rest' => do
          let (members, rest'') ← readMembers fuel room [] rest'
          pure (.object members, rest'')
    | '[' :: rest =>
      match room with
      | 0 => .error (.nested .list)
      | room + 1 =>
        match skipBlanks rest with
        | ']' :: rest' => .ok (.list [], rest')
        | rest' => do
          let (items, rest'') ← readItems fuel room rest'
          pure (.list items, rest'')
    | _ =>
      match word? cs with
      | some found => .ok found
      | none => readNumber cs

/-- The items of a list up to its closing bracket, the first of them beginning the input. -/
def readItems : (fuel : Nat) → (room : Nat) → List Char → Except Stop (List Json × List Char)
  | 0, _, cs => stopAt .value cs
  | fuel + 1, room, cs => do
    let (item, rest) ← readValue fuel room cs
    match skipBlanks rest with
    | ']' :: rest' => pure ([item], rest')
    | ',' :: rest' =>
      let (items, rest'') ← readItems fuel room (skipBlanks rest')
      pure (item :: items, rest'')
    | rest' => stopAt .comma rest'

/-- The members of an object up to its closing brace, the first of them beginning the input; `read`
holds the members read so far. -/
def readMembers : (fuel : Nat) → (room : Nat) → (read : Members) → List Char →
    Except Stop (Members × List Char)
  | 0, _, _, cs => stopAt .name cs
  | fuel + 1, room, read, cs =>
    match cs with
    | '"' :: rest => do
      let (name, rest) ← readText rest
      match skipBlanks rest with
      | ':' :: rest =>
        let (value, rest) ← readValue fuel room (skipBlanks rest)
        let read := read.put name value
        match skipBlanks rest with
        | '}' :: rest' => pure (read, rest')
        | ',' :: rest' => readMembers fuel room read (skipBlanks rest')
        | rest' => stopAt .comma rest'
      | rest => stopAt .colon rest
    | _ => stopAt .name cs

end

/-- The value that the whole input spells. Where brackets are not closed, two steps are taken for
one character. -/
def readAll (room : Nat) (cs : List Char) : Except Stop Json :=
  if cs.head? = some (Char.ofNat 0xFEFF) then stopAt .byteOrderMark cs
  else do
    let (value, rest) ← readValue (2 * cs.length + 1) room (skipBlanks cs)
    match skipBlanks rest with
    | [] => pure value
    | rest' => stopAt .extra rest'

/-- Why a text is no JSON: a fault with the line and column (from one) and the place (from zero) of
the character where it was found, or a numeral with too many digits. -/
inductive ReadError where
  | fault (kind : Fault) (line column place : Nat)
  | numeral (e : Numeral.TooLong)
deriving DecidableEq

/-- Why something was not read: an error, or a want of room. -/
inductive Unread (E : Type) where
  | error (e : E)
  | nested (e : Nested)
deriving DecidableEq

/-- The same with another error. -/
def Unread.map {E E' : Type} (f : E → E') : Unread E → Unread E'
  | .error e => .error (f e)
  | .nested e => .nested e

/-- Why the characters `cs` were not read, from how the reader stopped inside them. -/
def Stop.locate (cs : List Char) : Stop → Unread ReadError
  | .fault kind left =>
    let seen := cs.take (cs.length - left)
    .error (.fault kind (seen.count '\n' + 1) ((seen.reverse.takeWhile (· ≠ '\n')).length + 1)
      seen.length)
  | .numeral e => .error (.numeral e)
  | .nested e => .nested e

/-- The wording of a read error. -/
def ReadError.message : ReadError → String
  | .fault kind line column place =>
    kind.message ++ ": line " ++ Numeral.ofNat line ++ " column " ++ Numeral.ofNat column ++
      " (char " ++ Numeral.ofNat place ++ ")"
  | .numeral e => e.message

/-- The value that a text spells, in so much room. -/
def read (room : Nat) (s : String) : Except (Unread ReadError) Json :=
  match readAll room s.toList with
  | .ok value => .ok value
  | .error e => .error (e.locate s.toList)

end Remittance.Json
