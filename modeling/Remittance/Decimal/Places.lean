import Remittance.Decimal.Numeral
import Remittance.Decimal.Binary64

/-!
# Numbers with a given count of digits

The exact value of a floating-point number, rounded to a number of decimal places or of significant
digits, a tie going to the even digit.
-/

set_option autoImplicit false

namespace Remittance.Places

/-- The digits of a number in which the last `places` stand after the point, which is written only
before digits unless it is kept. -/
def withPoint (places n : Nat) (keepPoint : Bool) : List Char :=
  let ds := Numeral.padded (places + 1) n
  let whole := ds.take (ds.length - places)
  let part := ds.drop (ds.length - places)
  whole ++ (if part.isEmpty && !keepPoint then [] else '.' :: part)

/-- The fraction `num / den` with so many places. -/
def fixed (places num den : Nat) (keepPoint : Bool) : List Char :=
  withPoint places (Binary64.roundHalfEven (num * Nat.pow 10 places) den) keepPoint

/-- The fraction `num / den` divided by `10 ^ k`, as a fraction. -/
def shifted (num den : Nat) : (k : Int) → Nat × Nat
  | .ofNat k => (num, den * Nat.pow 10 k)
  | .negSucc k => (num * Nat.pow 10 (k + 1), den)

/-- The power of ten of the first digit of the positive fraction `num / den`. -/
def leading (num den : Nat) : Int :=
  if den ≤ num then (Numeral.digits (num / den)).length - 1
  else ((Numeral.digits (num * Nat.pow 10 400 / den)).length : Int) - 401

/-- The first `places + 1` digits of a fraction as one number, and the power of ten of the first of
them. -/
def significant (places num den : Nat) : Nat × Int :=
  if num = 0 then (0, 0)
  else
    let e := leading num den
    let s := shifted num den (e - places)
    let n := Binary64.roundHalfEven s.1 s.2
    if n = Nat.pow 10 (places + 1) then (Nat.pow 10 places, e + 1) else (n, e)

/-- An exponent after its mark. -/
def exponent (mark : Char) (e : Int) : List Char :=
  mark :: (if e < 0 then '-' else '+') :: Numeral.padded 2 e.natAbs

/-- The fraction `num / den` in scientific notation. -/
def scientific (places num den : Nat) (keepPoint : Bool) (mark : Char) : List Char :=
  let s := significant places num den
  withPoint places s.1 keepPoint ++ exponent mark s.2

/-- The characters without the zeros at the end of a fraction, and without its point if no digit is
left after it. -/
def withoutLastZeros (cs : List Char) : List Char :=
  if cs.contains '.' then
    match cs.reverse.dropWhile (· == '0') with
    | '.' :: rest => rest.reverse
    | rest => rest.reverse
  else cs

/-- The fraction `num / den` with at most so many significant digits, positional where the exponent
is small and scientific elsewhere; zeros at the end are dropped unless they are kept. -/
def general (digits num den : Nat) (keepZeros : Bool) (mark : Char) : List Char :=
  let count := max 1 digits
  let s := significant (count - 1) num den
  let shorten := fun cs => if keepZeros then cs else withoutLastZeros cs
  if -4 ≤ s.2 ∧ s.2 < count then
    shorten (fixed (count - 1 - s.2).toNat num den keepZeros)
  else shorten (withPoint (count - 1) s.1 keepZeros) ++ exponent mark s.2

end Remittance.Places
