import Remittance.Decimal.Lenient
import Remittance.Text.Digit
import Remittance.Text.DomainName
import Remittance.Text.Quoted

/-!
# Hosts

The host of a URL: four numbers between points, eight groups of hexadecimal digits in brackets, or
a name. A host that looks like one of them has to be one; a name is brought to ASCII and to lower
case.
-/

set_option autoImplicit false

namespace Remittance.Http.Host

/-- What a host looks like without being it. -/
inductive Fault where
  | fourNumbers (host : String)
  | eightGroups (host : String)
  | name (host : String)
deriving DecidableEq

/-- The wording of a fault. -/
def Fault.message : Fault → String
  | .fourNumbers host => "Invalid IPv4 address: " ++ Quoted.quote host
  | .eightGroups host => "Invalid IPv6 address: " ++ Quoted.quote host
  | .name host => "Invalid IDNA hostname: " ++ Quoted.quote host

/-- Whether characters look like four numbers between points. -/
def looksLikeFourNumbers (cs : List Char) : Bool :=
  let parts := Form.splitAt '.' cs
  parts.length == 4 && parts.all Numeral.isNumeral

/-- Whether characters spell a number below 256 without zeros in front. -/
def isOctet (cs : List Char) : Bool :=
  Numeral.isNumeral cs && cs.length ≤ 3 && (cs.length == 1 || cs.head? != some '0') &&
    Numeral.value cs ≤ 255

/-- Whether characters spell four octets between points. -/
def isFourNumbers (cs : List Char) : Bool :=
  let parts := Form.splitAt '.' cs
  parts.length == 4 && parts.all isOctet

/-- Whether characters are one to four hexadecimal digits. -/
def isGroup (cs : List Char) : Bool :=
  !cs.isEmpty && cs.length ≤ 4 && cs.all fun c => (Octets.hexValue? c).isSome

/-- The parts between colons, in which four numbers at the end stand for two groups. -/
def groups? (cs : List Char) : Option (List (List Char)) :=
  let parts := Form.splitAt ':' cs
  match parts.getLast? with
  | some last =>
    if parts.length < 3 then none
    else if last.contains '.' then
      if isFourNumbers last then some (parts.dropLast ++ [['0'], ['0']]) else none
    else some parts
  | none => none

/-- Whether groups are eight, or fewer around one empty place. At either end an empty group is only
the edge of that place. -/
def areGroups (parts : List (List Char)) : Bool :=
  if 9 < parts.length then false
  else
    let inner := (parts.drop 1).dropLast
    match (inner.filter List.isEmpty).length with
    | 0 => parts.length == 8 && parts.all isGroup
    | 1 =>
      let high := parts.takeWhile (fun p => !p.isEmpty)
      let place := if high.isEmpty then 1 else high.length
      let before := if high.isEmpty then [] else high
      let after := parts.drop (place + 1)
      let after := if after == [[]] then [] else after
      (parts[place]?).any List.isEmpty && before.all isGroup && after.all isGroup &&
        before.length + after.length ≤ 7
    | _ => false

/-- Whether characters spell eight groups, after which a zone may be named. -/
def isEightGroups (cs : List Char) : Bool :=
  let address := cs.takeWhile (· ≠ '%')
  let zone := (cs.dropWhile (· ≠ '%')).drop 1
  !cs.contains '/' && (!cs.contains '%' || (!zone.isEmpty && !zone.contains '%')) &&
    (groups? address).any areGroups

/-- Whether a character of a name is written as itself. -/
def isNameChar (c : Char) : Bool :=
  Percent.isUnreserved c || "!$&'()*+,;=\"\x7b\x7d%|\\".toList.contains c || c.toNat == 0x60

/-- A host as it is kept, without brackets. -/
def normalize (cs : List Char) : Except Fault (List Char) :=
  let host := String.ofList cs
  let inner := (cs.drop 1).dropLast
  if cs.isEmpty then .ok []
  else if looksLikeFourNumbers cs then
    if isFourNumbers cs then .ok cs else .error (.fourNumbers host)
  else if cs.head? = some '[' ∧ 2 ≤ cs.length ∧ cs.getLast? = some ']' then
    if isEightGroups inner then .ok inner else .error (.eightGroups host)
  else if cs.all fun c => c.toNat < 0x80 then .ok (Percent.quote isNameChar (cs.map Char.toLower))
  else
    match DomainName.toAscii? cs with
    | some name => .ok name
    | none => .error (.name host)

end Remittance.Http.Host
