import Remittance.Decimal.Numeral
import Remittance.Text.Blank
import Remittance.Text.Digit
import Remittance.Ledger.Asset
import Remittance.Ledger.Party
import Remittance.Ledger.Memo

/-!
# What the ledger admits

The ledger's own checks of the parts of an operation. They are wider than those of a payment
request: an amount may be any decimal number, with blanks around it and an exponent, as long as its
last place lies within seven places of the point and its value within the ledger's range.
-/

set_option autoImplicit false

namespace Remittance.Admission

/-- A decimal number: digits and the exponent of the last of them, or a value that is no number. -/
inductive Decimal where
  | finite (negative : Bool) (digits : Nat) (exponent : Int)
  | infinite (negative : Bool)
  | undefined
deriving DecidableEq

/-- The exponent that a text spells after its sign `e`; no text at all spells zero. -/
def exponent? : List Char → Option Int
  | [] => some 0
  | e :: rest =>
    if e = 'e' ∨ e = 'E' then
      let (negative, ds) := match rest with
        | '-' :: ds => (true, ds)
        | '+' :: ds => (false, ds)
        | _ => (false, rest)
      if Numeral.isNumeral ds then
        let n : Int := Numeral.value ds
        some (if negative then -n else n)
      else none
    else none

/-- The digits before and after the point at the beginning of a text, and the rest. -/
def digits (cs : List Char) : List Char × List Char × List Char :=
  let whole := cs.takeWhile Char.isDigit
  match cs.dropWhile Char.isDigit with
  | '.' :: rest => (whole, rest.takeWhile Char.isDigit, rest.dropWhile Char.isDigit)
  | rest => (whole, [], rest)

/-- Whether the exponent of a number's last place, and that of its first digit, can be counted. -/
def isCountable (digits : Nat) (exponent : Int) : Bool :=
  -1999999999999999997 ≤ exponent &&
    exponent + (Numeral.digits digits).length ≤ (1000000000000000000 : Int)

/-- The decimal number that a text without blanks spells after its sign. -/
def unsigned? (negative : Bool) (cs : List Char) : Option Decimal :=
  let word := String.ofList (cs.map Char.toLower)
  if word = "inf" ∨ word = "infinity" then some (.infinite negative)
  else
    let low := cs.map Char.toLower
    let quiet := if low.head? = some 's' then low.drop 1 else low
    if quiet.take 3 = ['n', 'a', 'n'] ∧ (quiet.drop 3).all Char.isDigit then some .undefined
    else
      let (whole, part, rest) := digits cs
      if whole.isEmpty ∧ part.isEmpty then none
      else do
        let e ← exponent? rest
        let n := Numeral.value (whole ++ part)
        let last := e - part.length
        if isCountable n last then some (.finite negative n last) else none

/-- The decimal number that a text spells in the digits of any script; blanks around it and
underscores in it do not count. -/
def decimal? (t : Text) : Option Decimal := do
  let s ← t.string?
  match ((Blank.trim Blank.isBlank s.toList).filter (· ≠ '_')).map Digit.toAscii with
  | '-' :: rest => unsigned? true rest
  | '+' :: rest => unsigned? false rest
  | cs => unsigned? false cs

/-- Which amount of an operation is meant. -/
inductive AmountRole where
  | payment
  | startingBalance
deriving DecidableEq

/-- The name of an amount in the ledger's messages. -/
def AmountRole.name : AmountRole → String
  | .payment => "amount"
  | .startingBalance => "starting_balance"

/-- Why the ledger does not admit a part. -/
inductive Rejection where
  | unreadableAmount
  | amountPlaces (role : AmountRole)
  | amountRange (role : AmountRole)
  | accountKey (text : Text)
  | party
  | assetCode
  | assetIssuer
  | memoText
deriving DecidableEq

/-- The wording of a rejection. -/
def Rejection.message : Rejection → Text
  | .unreadableAmount => "[<class 'decimal.ConversionSyntax'>]"
  | .amountPlaces role =>
    ↑("Value of argument \"" ++ role.name ++ "\" must have at most 7 digits after the decimal.")
  | .amountRange role =>
    ↑("Value of argument \"" ++ role.name ++ "\" must represent a positive number and the max " ++
      "valid value is 922337203685.4775807.")
  | .accountKey text => "Invalid Ed25519 Public Key: " ++ text
  | .party => "This is not a valid account."
  | .assetCode => "Asset code is invalid (maximum alphanumeric, 12 characters at max)."
  | .assetIssuer => "The issuer should be a correct public key."
  | .memoText => "Text should be <= 28 bytes."

/-- The number of ledger units of a decimal number whose exponent lies within seven. -/
def units (digits : Nat) (exponent : Int) : Nat := digits * Nat.pow 10 (exponent + 7).toNat

/-- The amount that a text gives, in units. -/
def amount (role : AmountRole) (t : Text) : Except Rejection Nat :=
  match decimal? t with
  | none => .error .unreadableAmount
  | some (.finite negative ds e) =>
    if e < -7 ∨ 7 < e then .error (.amountPlaces role)
    else
      let n := units ds e
      if (negative ∧ n ≠ 0) ∨ 0x8000000000000000 ≤ n then .error (.amountRange role) else .ok n
  | some _ => .error (.amountPlaces role)

/-- The asset of a code and an issuer. -/
def asset (code issuer : Text) : Except Rejection LedgerAsset :=
  match AssetCode.ofText? code with
  | none => .error .assetCode
  | some c =>
    match Key.ofAccountId? issuer with
    | none => .error .assetIssuer
    | some key => .ok (.credit c key)

/-- The party that a payment goes to. -/
def party (t : Text) : Except Rejection Party :=
  match Party.ofText? t with
  | none => .error .party
  | some p => .ok p

/-- The key of an account to be created. -/
def account (t : Text) : Except Rejection Key :=
  match Key.ofAccountId? t with
  | none => .error (.accountKey t)
  | some key => .ok key

/-- The ledger's form of a memo. -/
def memo (m : Memo) : Except Rejection LedgerMemo :=
  match m.toLedger? with
  | none => .error .memoText
  | some l => .ok l

end Remittance.Admission
