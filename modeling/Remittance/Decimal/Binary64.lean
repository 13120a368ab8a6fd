/-!
# Binary floating-point numbers of 64 bits

A finite number is a mantissa below 2^53 times a power of two; the module rounds exact fractions to
the nearest such number, a tie going to the even mantissa, and keeps infinities and the undefined
value apart. All arithmetic is exact arithmetic followed by one rounding.
-/

set_option autoImplicit false

namespace Remittance

/-- A binary floating-point number; a finite one is `mantissa * 2 ^ exponent` with its sign. -/
inductive Binary64 where
  | undefined
  | infinite (negative : Bool)
  | finite (negative : Bool) (mantissa : Nat) (exponent : Int)
deriving DecidableEq

namespace Binary64

/-- The smallest exponent of a finite number. -/
def minExponent : Int := -1074

/-- The largest exponent of a finite number. -/
def maxExponent : Int := 971

/-- The natural number nearest to `num / den`; a tie goes to the even one. -/
def roundHalfEven (num den : Nat) : Nat :=
  let q := num / den
  let twice := 2 * (num % den)
  if twice < den then q else if den < twice then q + 1 else q + q % 2

/-- Zero with a sign. -/
def zero (negative : Bool) : Binary64 := .finite negative 0 minExponent

/-- The numerator and denominator of `num / den` divided by a power of two. -/
def scaleDown (num den : Nat) : Int → Nat × Nat
  | .ofNat e => (num, den * Nat.pow 2 e)
  | .negSucc e => (num * Nat.pow 2 (e + 1), den)

/-- The number nearest to the fraction `num / den` (with `den` positive). -/
def ofRatio (negative : Bool) (num den : Nat) : Binary64 :=
  if num = 0 then zero negative
  else
    let low : Int := (Nat.log2 num : Int) - Nat.log2 den - 53
    let first := scaleDown num den low
    let wide : Int := if 0x20000000000000 ≤ first.1 / first.2 then low + 1 else low
    let exponent := max minExponent wide
    let scaled := scaleDown num den exponent
    let mantissa := roundHalfEven scaled.1 scaled.2
    let top := decide (mantissa = 0x20000000000000)
    let mantissa := if top then 0x10000000000000 else mantissa
    let exponent := if top then exponent + 1 else exponent
    if maxExponent < exponent then .infinite negative else .finite negative mantissa exponent

/-- The number nearest to `digits * 10 ^ exponent`, where `digits` has `width` decimal digits.
Exponents far outside the range are settled without the power of ten. -/
def ofDecimal (negative : Bool) (digits width : Nat) (exponent : Int) : Binary64 :=
  if digits = 0 then zero negative
  else if 400 < exponent then .infinite negative
  else if exponent + width < -400 then zero negative
  else match exponent with
    | .ofNat e => ofRatio negative (digits * Nat.pow 10 e) 1
    | .negSucc e => ofRatio negative digits (Nat.pow 10 (e + 1))

/-- The number nearest to an integer. -/
def ofInt (n : Int) : Binary64 := ofRatio (decide (n < 0)) n.natAbs 1

/-- The magnitude of a finite number as a fraction. -/
def ratio (mantissa : Nat) : Int → Nat × Nat
  | .ofNat e => (mantissa * Nat.pow 2 e, 1)
  | .negSucc e => (mantissa, Nat.pow 2 (e + 1))

/-- The integer part of a finite magnitude. -/
def wholePart (mantissa : Nat) (exponent : Int) : Nat :=
  let r := ratio mantissa exponent
  r.1 / r.2

/-- A finite number cut off toward zero. -/
def truncate? : Binary64 → Option Int
  | .finite negative m e =>
    let n : Int := wholePart m e
    some (if negative then -n else n)
  | _ => none

/-- The integer that a number equals, if it is one. -/
def toInt? : Binary64 → Option Int
  | .finite negative m e =>
    let r := ratio m e
    if r.1 % r.2 = 0 then
      let n : Int := r.1 / r.2
      some (if negative then -n else n)
    else none
  | _ => none

/-- The product of a finite number and a natural number, rounded. -/
def timesNat (x : Binary64) (k : Nat) : Binary64 :=
  match x with
  | .finite negative m e =>
    let r := ratio m e
    ofRatio negative (r.1 * k) r.2
  | other => other

/-- The fractional part of a finite number, with its sign. -/
def fraction (x : Binary64) : Binary64 :=
  match x with
  | .finite negative m e =>
    let r := ratio m e
    ofRatio negative (r.1 % r.2) r.2
  | other => other

/-- The integer nearest to a finite number; a tie goes to the even one. -/
def round? : Binary64 → Option Int
  | .finite negative m e =>
    let r := ratio m e
    let n : Int := roundHalfEven r.1 r.2
    some (if negative then -n else n)
  | _ => none

end Binary64

end Remittance
