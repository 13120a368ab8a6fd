import Remittance.Decimal.Numeral
import Remittance.Text.CodePoint
import Remittance.Text.Printable

/-!
# Quoted text

The form in which a text is shown inside a message: between quotes, with a backslash before what
would end or bend it, and with code points that cannot be seen written by number.
-/

set_option autoImplicit false

namespace Remittance

namespace Quoted

/-- The quote put around a text: single, unless the text holds single quotes and no double ones. -/
def mark (codes : List CodePoint) : Char :=
  if codes.contains (.char '\'') && !codes.contains (.char '"') then '"' else '\''

/-- The last `width` hexadecimal digits of a number. -/
def hexDigits (width n : Nat) : List Char :=
  match width with
  | 0 => []
  | w + 1 => hexDigits w (n / 16) ++ [Octets.hexDigit (n % 16)]

/-- A code point by its number, in the shortest of the three forms that holds it. -/
def numbered (n : Nat) : List Char :=
  if n < 0x100 then '\\' :: 'x' :: hexDigits 2 n
  else if n < 0x10000 then '\\' :: 'u' :: hexDigits 4 n
  else '\\' :: 'U' :: hexDigits 8 n

/-- A code point as it is written between the quotes `quote`. -/
def escape (quote : Char) : CodePoint → List Char
  | .char c =>
    if c = quote ∨ c = '\\' then ['\\', c]
    else if c = '\n' then ['\\', 'n']
    else if c = '\r' then ['\\', 'r']
    else if c = '\t' then ['\\', 't']
    else if Printable.isPrintable c then [c]
    else numbered c.toNat
  | code@(.half _) => numbered code.toNat

/-- A text between its quotes. -/
def quote (t : Text) : String :=
  let q := mark t.codes
  String.ofList (q :: t.codes.flatMap (escape q) ++ [q])

end Quoted

/-- The wording of the refusal of a torn text. -/
def Text.Torn.message (e : Text.Torn) : String :=
  let place :=
    if e.width = 1 then
      "character '" ++ String.ofList (Quoted.numbered (CodePoint.half e.first).toNat) ++
        "' in position " ++ Numeral.ofNat e.position
    else
      "characters in position " ++ Numeral.ofNat e.position ++ "-" ++
        Numeral.ofNat (e.position + e.width - 1)
  "'utf-8' codec can't encode " ++ place ++ ": surrogates not allowed"

end Remittance
