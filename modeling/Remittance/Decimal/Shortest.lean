import Remittance.Decimal.Numeral
import Remittance.Decimal.Binary64

/-!
# Shortest decimals

The fewest decimal digits that lie nearer to a floating-point number than to any other, and of
those the nearest. Only the two neighbours of the number on each decimal grid are candidates. The
notation is positional for decimal exponents from -4 to 15 and scientific outside.
-/

set_option autoImplicit false

namespace Remittance.Shortest

/-- A positive number as a fraction, with the interval of numbers that round to it, over one
denominator; the ends belong to it if `closed`. -/
structure Target where
  low : Nat
  mid : Nat
  high : Nat
  den : Nat
  closed : Bool

/-- The interval of the number `m * 2 ^ e`, with everything counted in quarters of its last
place. -/
def target (m : Nat) (e : Int) : Target :=
  let below := if m = 0x10000000000000 ∧ Binary64.minExponent < e then 1 else 2
  let unit := Binary64.ratio 1 (e - 2)
  { low := (4 * m - below) * unit.1
    mid := 4 * m * unit.1
    high := (4 * m + 2) * unit.1
    den := unit.2
    closed := m % 2 == 0 }

/-- A point `c * 10 ^ k` as a fraction. -/
def gridPoint (c : Nat) : (k : Int) → Nat × Nat
  | .ofNat k => (c * Nat.pow 10 k, 1)
  | .negSucc k => (c, Nat.pow 10 (k + 1))

/-- Whether a fraction lies in the interval. -/
def Target.contains (t : Target) (p : Nat × Nat) : Bool :=
  let x := p.1 * t.den
  let low := t.low * p.2
  let high := t.high * p.2
  if t.closed then low ≤ x && x ≤ high else low < x && x < high

/-- The distance of a fraction from the number, times both denominators. -/
def Target.distance (t : Target) (p : Nat × Nat) : Nat :=
  let x := p.1 * t.den
  let y := t.mid * p.2
  if x ≤ y then y - x else x - y

/-- The candidate on the grid of tens to the power `k` that is to be taken, if there is one. -/
def onGrid? (t : Target) (k : Int) : Option Nat :=
  let unit := gridPoint 1 k
  let c := t.mid * unit.2 / (t.den * unit.1)
  let below := gridPoint c k
  let above := gridPoint (c + 1) k
  match t.contains below, t.contains above with
  | true, true =>
    let a := t.distance below
    let b := t.distance above
    if a < b then some c else if b < a then some (c + 1) else some (c + c % 2)
  | true, false => some c
  | false, true => some (c + 1)
  | false, false => none

/-- The least `k` with the positive fraction `num / den` below `10 ^ k`. -/
def magnitude (num den : Nat) : Int :=
  if den ≤ num then (Numeral.digits (num / den)).length
  else ((Numeral.digits (num * Nat.pow 10 400 / den)).length : Int) - 400

/-- The first grid, from coarse to fine, that has a candidate: its digits and their exponent. -/
def search (t : Target) (top : Int) : (fuel : Nat) → (digits : Nat) → Nat × Int
  | 0, _ => (t.mid / t.den, 0)
  | fuel + 1, n =>
    match onGrid? t (top - n) with
    | some c => (c, top - n)
    | none => search t top fuel (n + 1)

/-- The number without its last zeros, and the exponent raised by their count. -/
def stripZeros : (fuel : Nat) → Nat → Int → Nat × Int
  | 0, c, k => (c, k)
  | fuel + 1, c, k => if c ≠ 0 ∧ c % 10 = 0 then stripZeros fuel (c / 10) (k + 1) else (c, k)

/-- The digits of a positive number `m * 2 ^ e` and the exponent of the last of them. -/
def decimal (m : Nat) (e : Int) : Nat × Int :=
  let t := target m e
  let found := search t (magnitude t.mid t.den) 17 1
  stripZeros 20 found.1 found.2

/-- The notation of the digits `ds`, of which the last has the exponent `k`. -/
def layout (ds : List Char) (k : Int) : List Char :=
  let point : Int := ds.length + k
  if 0 < point ∧ point ≤ 16 then
    let n := point.toNat
    let whole := ds.take n ++ List.replicate (n - ds.length) '0'
    let part := ds.drop n
    whole ++ '.' :: (if part.isEmpty then ['0'] else part)
  else if -4 < point ∧ point ≤ 0 then
    '0' :: '.' :: List.replicate (-point).toNat '0' ++ ds
  else
    let exponent := point - 1
    let part := ds.drop 1
    let sign := if exponent < 0 then '-' else '+'
    ds.take 1 ++ (if part.isEmpty then [] else '.' :: part) ++
      'e' :: sign :: Numeral.padded 2 exponent.natAbs

/-- The text of a floating-point number. -/
def text : Binary64 → String
  | .undefined => "nan"
  | .infinite negative => if negative then "-inf" else "inf"
  | .finite negative m e =>
    let body := if m = 0 then ['0', '.', '0'] else
      let d := decimal m e
      layout (Numeral.digits d.1) d.2
    String.ofList (if negative then '-' :: body else body)

end Remittance.Shortest
