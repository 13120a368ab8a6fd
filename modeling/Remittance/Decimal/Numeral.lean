/-!
# Decimal numerals

Numbers as runs of decimal digits. A run read from outside may hold at most 4300 digits, leading
zeros included; a longer one is refused with the count of its digits.
-/

set_option autoImplicit false

namespace Remittance.Numeral

/-- The number that a run of digits spells. -/
def value (ds : List Char) : Nat := ds.foldl (fun n c => n * 10 + (c.toNat - 48)) 0

/-- The digits of a number, without leading zeros. -/
def digits (n : Nat) : List Char := Nat.toDigits 10 n

/-- The digits of an integer, after a minus sign if it is negative. -/
def signed : Int → List Char
  | .ofNat n => digits n
  | .negSucc n => '-' :: digits (n + 1)

/-- The text of a natural number. -/
def ofNat (n : Nat) : String := String.ofList (digits n)

/-- The text of an integer. -/
def ofInt (n : Int) : String := String.ofList (signed n)

/-- The digits of a number, with zeros in front up to a width. -/
def padded (width n : Nat) : List Char :=
  List.replicate (width - (digits n).length) '0' ++ digits n

/-- The most digits that a numeral from outside may have. -/
def maxDigits : Nat := 4300

/-- A numeral was longer than `maxDigits`. -/
structure TooLong where
  count : Nat
deriving DecidableEq

/-- The wording of the refusal of a long numeral. -/
def TooLong.message (e : TooLong) : String :=
  "Exceeds the limit (4300 digits) for integer string conversion: value has " ++ ofNat e.count ++
    " digits; use sys.set_int_max_str_digits() to increase the limit"

/-- The number that a run of digits from outside spells. -/
def read (ds : List Char) : Except TooLong Nat :=
  if ds.length ≤ maxDigits then .ok (value ds) else .error ⟨ds.length⟩

/-- An integer had more than `maxDigits` digits and could not be written into a message. -/
structure TooLarge where
deriving DecidableEq

/-- The wording of the refusal to write a large integer. -/
def TooLarge.message (_ : TooLarge) : String :=
  "Exceeds the limit (4300 digits) for integer string conversion; " ++
    "use sys.set_int_max_str_digits() to increase the limit"

/-- The text of an integer for a message. -/
def write (n : Int) : Except TooLarge String :=
  if (digits n.natAbs).length ≤ maxDigits then .ok (ofInt n) else .error ⟨⟩

/-- Whether the characters are a non-empty run of digits. -/
def isNumeral (cs : List Char) : Bool := !cs.isEmpty && cs.all Char.isDigit

end Remittance.Numeral
