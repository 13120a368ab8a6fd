import Remittance.Text.Charset
import Remittance.Text.MediaType

/-!
# Forms in parts

A form sent in parts: each part has headers, of which one names the field, and after an empty line
the value. A boundary line stands before each part and after the last one. What follows the last
complete part is passed over.
-/

set_option autoImplicit false

namespace Remittance.Multipart

/-- What is wrong with a form in parts. -/
inductive Fault where
  | noBoundary
  | noName
  | malformed
  | tooManyFields
  | tooLongValue
deriving DecidableEq

/-- The wording of a fault. -/
def Fault.message : Fault → String
  | .noBoundary => "Missing boundary in multipart."
  | .noName => "The Content-Disposition header field \"name\" must be provided."
  | .malformed => "Invalid multipart data."
  | .tooManyFields => "Too many fields. Maximum number of fields is 1000."
  | .tooLongValue => "Part exceeded maximum size of 1024KB."

/-- The most fields of a form. -/
def maxFields : Nat := 1000

/-- The most octets of a value. -/
def maxValue : Nat := 1048576

/-- The input after a beginning. -/
def after? (start : Octets) (b : Octets) : Option Octets :=
  if start.isPrefixOf b then some (b.drop start.length) else none

/-- The end of a line. -/
def lineEnd : Octets := [13, 10]

/-- Two hyphens. -/
def hyphens : Octets := [45, 45]

/-- What follows a boundary: a further part, the end, or neither. -/
inductive Next where
  | part (rest : Octets)
  | finish
  | neither

/-- What follows a boundary at the beginning of the input. -/
def next (b : Octets) : Next :=
  match after? lineEnd b with
  | some rest => .part rest
  | none => if hyphens.isPrefixOf b then .finish else .neither

/-- The value up to the next boundary, and what follows the boundary; nothing if there is none. -/
def value? (boundary : Octets) : Octets → Option (Octets × Next)
  | [] => none
  | o :: rest =>
    let further := (value? boundary rest).map fun r => (o :: r.1, r.2)
    match after? (lineEnd ++ hyphens ++ boundary) (o :: rest) with
    | none => further
    | some tail =>
      match next tail with
      | .neither => further
      | n => some ([], n)

/-- Whether a character may stand in the name of a header. -/
def isTokenChar (c : Char) : Bool := c.isAlphanum || "!#$%&'*+-.^_`|~".toList.contains c

/-- A header line: its name in lower case, and its value. -/
def header (line : Octets) : Option (List Char × List Char) :=
  let cs := Charset.latin line
  let name := cs.takeWhile (· ≠ ':')
  if name.isEmpty || !cs.contains ':' || !name.all isTokenChar then none
  else some (name.map Char.toLower, ((cs.dropWhile (· ≠ ':')).drop 1).dropWhile (· = ' '))

/-- Whether the input may end inside a header line, of which `line` is there. -/
def isBeginning (line : Octets) : Bool :=
  let cs := Charset.latin line
  let name := cs.takeWhile (· ≠ ':')
  name.all isTokenChar && (!name.isEmpty || cs.isEmpty)

/-- The headers up to the empty line, and the input after it; nothing if the input ends before. -/
def headers : (fuel : Nat) → Octets → Except Fault (Option (List (List Char × List Char) × Octets))
  | 0, _ => .ok none
  | fuel + 1, b =>
    let line := b.takeWhile (· ≠ 13)
    match b.dropWhile (· ≠ 13) with
    | 13 :: 10 :: rest =>
      if line.isEmpty then .ok (some ([], rest))
      else
        match header line with
        | none => .error .malformed
        | some h => do
          let more ← headers fuel rest
          pure (more.map fun r => (h :: r.1, r.2))
    | 13 :: _ :: _ => .error .malformed
    | [13] => if line.isEmpty || (header line).isSome then .ok none else .error .malformed
    | _ => if isBeginning line then .ok none else .error .malformed

/-- The name of the field of a part, in the character set `charset`. -/
def fieldName (charset : String) (hs : List (List Char × List Char)) : Except Fault String :=
  match hs.reverse.find? fun h => h.1 == "content-disposition".toList with
  | none => .error .noName
  | some h =>
    match (MediaType.read (String.ofList h.2)).parameters.last? "name" with
    | none => .error .noName
    | some name => .ok (Charset.decode charset (name.toList.map fun c => UInt8.ofNat c.toNat))

/-- The fields of the parts, the first of which begins the input, if there are at most so many. -/
def fields (charset : String) (boundary : Octets) :
    (most : Nat) → Octets → Except Fault Form
  | most, b => do
    match ← headers b.length b with
    | none => pure []
    | some (hs, rest) =>
      let name ← fieldName charset hs
      match most, value? boundary rest with
      | 0, _ => .error .tooManyFields
      | _ + 1, none => pure []
      | most + 1, some (value, next) =>
        if maxValue < value.length then throw .tooLongValue
        match next with
        | .part rest =>
          let more ← fields charset boundary most rest
          pure ((name, Charset.decode charset value) :: more)
        | _ => pure [(name, Charset.decode charset value)]

/-- Whether an input ends before its first boundary line does. -/
def endsEarly (boundary b : Octets) : Bool :=
  b.isPrefixOf (hyphens ++ boundary ++ lineEnd) || b.isPrefixOf (hyphens ++ boundary ++ hyphens)

/-- The form of a body with a boundary, its texts being in the character set `charset`. -/
def read (charset : String) (boundary body : Octets) : Except Fault Form :=
  let b := body.dropWhile fun o => o == 13 || o == 10
  if endsEarly boundary b then .ok []
  else match after? (hyphens ++ boundary) b with
    | none => .error .malformed
    | some rest =>
      match next rest with
      | .part rest => fields charset boundary maxFields rest
      | .finish => .ok []
      | .neither => .error .malformed

/-- The form of a body whose media type has the parameters. -/
def ofParameters (parameters : Form) (body : Octets) : Except Fault Form :=
  match parameters.last? "boundary" with
  | none => .error .noBoundary
  | some boundary =>
    read ((parameters.last? "charset").getD "utf-8")
      (boundary.toList.map fun c => UInt8.ofNat c.toNat) body

end Remittance.Multipart
