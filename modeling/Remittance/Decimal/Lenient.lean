import Remittance.Decimal.Numeral
import Remittance.Decimal.Binary64
import Remittance.Text.Blank

/-!
# Numbers as people write them

Lenient readers of integers and of floating-point numbers: white space around the number, signs,
leading zeros, and single underscores between digits are passed over.
-/

set_option autoImplicit false

namespace Remittance.Lenient

/-- The characters without white space at the ends. -/
def trimmed (s : String) : List Char := Blank.trim Blank.isWhiteSpace s.toList

/-- Whether two underscores stand side by side. -/
def hasPair : List Char → Bool
  | '_' :: '_' :: _ => true
  | _ :: rest => hasPair rest
  | [] => false

/-- The characters without their underscores, none of which may stand at an end or beside another
one. -/
def withoutUnderscores? (cs : List Char) : Option (List Char) :=
  if cs.head? = some '_' ∨ cs.getLast? = some '_' ∨ hasPair cs then none
  else some (cs.filter (· ≠ '_'))

/-- Why a text is no integer. -/
inductive Rejection where
  | malformed
  | tooLong
deriving DecidableEq

/-- The characters after leading zeros and the underscores among them; one character is left. -/
def afterZeros : List Char → Option (List Char)
  | [] => none
  | [c] => if c = '0' ∨ c = '_' ∨ c.isDigit ∨ c = '-' then some [c] else none
  | c :: d :: rest =>
    if c = '0' ∨ c = '_' then
      if d = '.' then some (c :: d :: rest) else afterZeros (d :: rest)
    else if c.isDigit ∨ c = '-' then some (c :: d :: rest) else none

/-- The characters of a number without its leading zeros. -/
def significant? (cs : List Char) : Option (List Char) :=
  match cs with
  | '0' :: _ => afterZeros cs
  | c :: _ => if c.isDigit ∨ c = '-' then some cs else none
  | [] => none

/-- The characters without a fraction of zeros, of which there is at least one. -/
def withoutZeroFraction (cs : List Char) : List Char :=
  let part := (cs.dropWhile (· ≠ '.')).drop 1
  if !part.isEmpty && part.all (· == '0') then cs.takeWhile (· ≠ '.') else cs

/-- The characters after the sign, and whether it is a minus sign. -/
def splitSign (cs : List Char) : Bool × List Char :=
  match cs with
  | '+' :: rest => (false, rest)
  | '-' :: rest => (true, rest)
  | _ => (false, cs)

/-- The digits after at most one minus sign that a text comes to without all that is passed over. A
minus sign may also stand behind leading zeros, but not right behind a plus sign. -/
def bare? (s : String) : Option (List Char) := do
  if ['+', '-'].isPrefixOf (trimmed s) then none
  let (negative, cs) := splitSign (trimmed s)
  let cs ← significant? cs
  let cs ← withoutUnderscores? (withoutZeroFraction cs)
  pure (if negative then '-' :: cs else cs)

/-- The digits of a number in its shortest form, which has no leading zeros. -/
def isShortest (ds : List Char) : Bool :=
  Numeral.isNumeral ds && (ds.head? ≠ some '0' || ds.length == 1)

/-- The integer that digits after at most one minus sign spell. The sign counts as a digit. -/
def shortest? (cs : List Char) : Option Int :=
  if Numeral.maxDigits < cs.length then none
  else match cs with
    | '-' :: ds => if isShortest ds then some (-(Numeral.value ds : Int)) else none
    | ds => if isShortest ds then some (Numeral.value ds) else none

/-- Whether a text begins with too many digits to be looked at any further. -/
def startsTooLong (s : String) : Bool :=
  let (sign, ds) := match s.toList with
    | '-' :: ds => (1, ds)
    | ds => (0, ds)
  let run := ds.takeWhile Char.isDigit
  ds.head? ≠ some '0' && !run.isEmpty && decide (Numeral.maxDigits < run.length + sign)

/-- The integer that a text spells. -/
def integer (s : String) : Except Rejection Int :=
  if startsTooLong s then .error .tooLong
  else match (bare? s).bind shortest? with
    | some n => .ok n
    | none => .error .malformed

/-- The exponent that the end of a number spells; nothing there spells zero. -/
def exponent? (cs : List Char) : Option Int :=
  match cs with
  | [] => some 0
  | e :: rest =>
    if e = 'e' ∨ e = 'E' then
      match rest with
      | '-' :: ds => if Numeral.isNumeral ds then some (-(Numeral.value ds : Int)) else none
      | '+' :: ds => if Numeral.isNumeral ds then some (Numeral.value ds) else none
      | ds => if Numeral.isNumeral ds then some (Numeral.value ds) else none
    else none

/-- The number that digits, perhaps with a point and an exponent, spell. -/
def decimal? (negative : Bool) (cs : List Char) : Option Binary64 :=
  let whole := cs.takeWhile Char.isDigit
  let (part, rest) := match cs.dropWhile Char.isDigit with
    | '.' :: rest => (rest.takeWhile Char.isDigit, rest.dropWhile Char.isDigit)
    | rest => ([], rest)
  let ds := whole ++ part
  if ds.isEmpty then none
  else (exponent? rest).map fun e =>
    .ofDecimal negative (Numeral.value ds) ds.length (e - part.length)

/-- The number that an unsigned text spells, by a word or by digits. -/
def unsigned? (negative : Bool) (cs : List Char) : Option Binary64 :=
  let word := cs.map Char.toLower
  if word = "nan".toList then some .undefined
  else if word = "inf".toList ∨ word = "infinity".toList then some (.infinite negative)
  else decimal? negative cs

/-- The number that characters spell. -/
def signed? (cs : List Char) : Option Binary64 :=
  match cs with
  | '-' :: rest => unsigned? true rest
  | '+' :: rest => unsigned? false rest
  | _ => unsigned? false cs

/-- The floating-point number that a text spells. White space around it goes with plain digits only,
not with underscores. -/
def real? (s : String) : Option Binary64 :=
  match signed? (trimmed s) with
  | some x => some x
  | none => (withoutUnderscores? s.toList).bind signed?

end Remittance.Lenient
