import Remittance.Text.Blank
import Remittance.Text.Form

/-!
# Media types and other headers with parameters

The value of a header such as a content type: a leading word and parameters after semicolons. A
semicolon between quotes parts nothing.
-/

set_option autoImplicit false

namespace Remittance

/-- A header's value: the leading word and the names of the parameters, both in lower case, and the
values of the parameters. -/
structure MediaType where
  word : String
  parameters : Form
deriving DecidableEq

namespace MediaType

/-- The characters up to the first semicolon outside quotes, and those after it. -/
def cut (quoted : Bool) : List Char → List Char × Option (List Char)
  | [] => ([], none)
  | '\\' :: '"' :: rest =>
    let r := cut quoted rest
    ('\\' :: '"' :: r.1, r.2)
  | '"' :: rest =>
    let r := cut (!quoted) rest
    ('"' :: r.1, r.2)
  | c :: rest =>
    if c = ';' && !quoted then ([], some rest)
    else
      let r := cut quoted rest
      (c :: r.1, r.2)

/-- The parts between the semicolons outside quotes. -/
def parts : (fuel : Nat) → List Char → List (List Char)
  | 0, _ => []
  | fuel + 1, cs =>
    match cut false cs with
    | (part, none) => [part]
    | (part, some rest) => part :: parts fuel rest

/-- The characters in which two backslashes became one, pair by pair. -/
def joinBackslashes : List Char → List Char
  | '\\' :: '\\' :: rest => '\\' :: joinBackslashes rest
  | c :: rest => c :: joinBackslashes rest
  | [] => []

/-- The characters without the backslashes that stand before quotes. -/
def bareQuotes : List Char → List Char
  | '\\' :: '"' :: rest => '"' :: bareQuotes rest
  | c :: rest => c :: bareQuotes rest
  | [] => []

/-- The characters for which the inside of a quoted value stands: pairs of backslashes are joined
first, and only then are quotes bared. -/
def unescape (cs : List Char) : List Char := bareQuotes (joinBackslashes cs)

/-- A parameter's value without the quotes around it. -/
def unquote (cs : List Char) : List Char :=
  match cs with
  | '"' :: rest => if 1 ≤ rest.length ∧ rest.getLast? = some '"' then unescape rest.dropLast else cs
  | _ => cs

/-- The characters without blanks at the ends. -/
def strip (cs : List Char) : List Char := Blank.trim Blank.isBlank cs

/-- The parameter that a part spells; without an equals sign its value is empty. -/
def parameter (cs : List Char) : String × String :=
  let name := strip (cs.takeWhile (· ≠ '='))
  let value := strip ((cs.dropWhile (· ≠ '=')).drop 1)
  (String.ofList (name.map Char.toLower), String.ofList (unquote value))

/-- The value that a header's text spells. -/
def read (s : String) : MediaType :=
  match parts (s.length + 1) s.toList with
  | [] => ⟨"", []⟩
  | word :: more => ⟨String.ofList (strip (word.map Char.toLower)), more.map parameter⟩

end MediaType

end Remittance
