import Remittance.Json.Value
import Remittance.Decimal.Shortest
import Remittance.Text.Quoted

/-!
# Showing JSON values in messages

Inside a message a value is shown with quoted texts and with the words `None`, `True` and `False`.
-/

set_option autoImplicit false

namespace Remittance.Json

mutual

/-- The characters that show a value. -/
def displayChars : Json → List Char
  | .null => "None".toList
  | .bool true => "True".toList
  | .bool false => "False".toList
  | .int n => Numeral.signed n
  | .real x => (Shortest.text x).toList
  | .text s => (Quoted.quote s).toList
  | .list items => '[' :: displayItems items ++ [']']
  | .object members => '{' :: displayMembers members ++ ['}']

/-- The characters that show the items of a list. -/
def displayItems : List Json → List Char
  | [] => []
  | [item] => displayChars item
  | item :: rest => displayChars item ++ [',', ' '] ++ displayItems rest

/-- The characters that show the members of an object. -/
def displayMembers : List (Text × Json) → List Char
  | [] => []
  | [(name, value)] => (Quoted.quote name).toList ++ [':', ' '] ++ displayChars value
  | (name, value) :: rest =>
    (Quoted.quote name).toList ++ [':', ' '] ++ displayChars value ++ [',', ' '] ++
      displayMembers rest

end

/-- The text that shows a value. -/
def display (j : Json) : String := String.ofList (displayChars j)

/-- The plain text of a value: a text stands for itself, any other value is shown. -/
def plain : Json → Text
  | .text s => s
  | j => j.display

end Remittance.Json
