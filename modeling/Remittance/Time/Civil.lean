import Remittance.Decimal.Numeral
import Remittance.Decimal.Binary64

/-!
# Civil time

Moments counted in seconds from the beginning of 1970, their dates in the Gregorian calendar and
their times of day, all in UTC and without leap seconds.
-/

set_option autoImplicit false

namespace Remittance

/-- A date of the Gregorian calendar. -/
structure Date where
  year : Int
  month : Nat
  day : Nat
deriving DecidableEq

namespace Date

/-- The days from the first of March of the year 0 to the beginning of 1970. -/
def epochDays : Int := 719468

/-- The days of 400 years. -/
def cycleDays : Nat := 146097

/-- The year within a cycle of 400 years that begin in March, of a day within the cycle. -/
def yearOfCycle (day : Nat) : Nat := (day - day / 1460 + day / 36524 - day / 146096) / 365

/-- The days of a cycle before a year of it. -/
def daysBefore (year : Nat) : Nat := 365 * year + year / 4 - year / 100

/-- The date so many days after the first of January 1970. The count goes by years that begin in
March, so that the leap day is the last day of a year. -/
def ofDays (days : Int) : Date :=
  let shifted := days + epochDays
  let cycle := shifted.fdiv cycleDays
  let day := (shifted - cycle * cycleDays).toNat
  let year := yearOfCycle day
  let dayOfYear := day - daysBefore year
  let index := (5 * dayOfYear + 2) / 153
  let month := if index < 10 then index + 3 else index - 9
  { year := year + cycle * 400 + (if month ≤ 2 then 1 else 0)
    month
    day := dayOfYear - (153 * index + 2) / 5 + 1 }

end Date

/-- A moment: whole seconds from the beginning of 1970, and microseconds from there on. -/
structure Moment where
  seconds : Int
  micros : Nat
deriving DecidableEq

namespace Moment

/-- The seconds of a day. -/
def daySeconds : Nat := 86400

/-- The moment of a finite number of seconds, to the nearest microsecond. The fraction is scaled
before it is rounded. -/
def ofSeconds? (x : Binary64) : Option Moment := do
  let whole ← x.truncate?
  let micros ← (x.fraction.timesNat 1000000).round?
  if 1000000 ≤ micros then pure ⟨whole + 1, (micros - 1000000).toNat⟩
  else if micros < 0 then pure ⟨whole - 1, (micros + 1000000).toNat⟩
  else pure ⟨whole, micros.toNat⟩

/-- A time counted from the beginning of 1970: in whole seconds, or with a fraction. -/
inductive Seconds where
  | whole (n : Int)
  | real (x : Binary64)

/-- The moment of a time, to the nearest microsecond, if it is finite. -/
def ofTime? : Seconds → Option Moment
  | .whole n => some ⟨n, 0⟩
  | .real x => ofSeconds? x

/-- The moment of the last whole second not after a time, if it is finite. -/
def below? : Seconds → Option Moment
  | .whole n => some ⟨n, 0⟩
  | .real x =>
    x.truncate?.map fun whole =>
      match x.fraction with
      | .finite true m _ => if m = 0 then ⟨whole, 0⟩ else ⟨whole - 1, 0⟩
      | _ => ⟨whole, 0⟩

/-- The thousandths of a second in the fraction of a time, cut off toward zero. -/
def thousandths : Seconds → Int
  | .whole _ => 0
  | .real x => ((x.fraction.timesNat 1000).truncate?).getD 0

/-- The date of a moment. -/
def date (m : Moment) : Date := Date.ofDays (m.seconds.fdiv daySeconds)

/-- The seconds of a moment's day that have passed. -/
def secondOfDay (m : Moment) : Nat := (m.seconds.fmod daySeconds).toNat

/-- Hours, minutes and seconds between colons. -/
def clock (m : Moment) : List Char :=
  let s := m.secondOfDay
  Numeral.padded 2 (s / 3600) ++ ':' :: Numeral.padded 2 (s / 60 % 60) ++
    ':' :: Numeral.padded 2 (s % 60)

/-- Month and day, each after a hyphen. -/
def monthDay (d : Date) : List Char :=
  '-' :: Numeral.padded 2 d.month ++ '-' :: Numeral.padded 2 d.day

/-- The text of a moment with its offset from UTC; microseconds are written only if there are some.
Only years of at most four digits have one. -/
def iso? (m : Moment) : Except Int String :=
  let d := m.date
  if 1 ≤ d.year ∧ d.year ≤ 9999 then
    let part := if m.micros = 0 then [] else '.' :: Numeral.padded 6 m.micros
    .ok (String.ofList (Numeral.padded 4 d.year.toNat ++ monthDay d ++ 'T' :: m.clock ++ part ++
      "+00:00".toList))
  else .error d.year

end Moment

end Remittance
