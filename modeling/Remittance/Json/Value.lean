import Remittance.Decimal.Binary64
import Remittance.Text.CodePoint

/-!
# JSON values

Integers are exact and of any size; other numbers are floating-point. An object keeps its members
in the order in which their names first came, each name once.
-/

set_option autoImplicit false

namespace Remittance

/-- A JSON value. -/
inductive Json where
  | null
  | bool (value : Bool)
  | int (value : Int)
  | real (value : Binary64)
  | text (value : Text)
  | list (items : List Json)
  | object (members : List (Text × Json))

namespace Json

/-- The members of an object. -/
abbrev Members := List (Text × Json)

/-- The members with a value under a name: in the place of the member of that name, or last. -/
def Members.put : Members → Text → Json → Members
  | [], name, value => [(name, value)]
  | (n, v) :: rest, name, value =>
    if n == name then (n, value) :: rest else (n, v) :: Members.put rest name value

/-- The value under a name. -/
def Members.get? (members : Members) (name : String) : Option Json :=
  (members.find? fun m => m.1 == (name : Text)).map Prod.snd

/-- The text of a text value. -/
def text? : Json → Option Text
  | .text s => some s
  | _ => none

mutual

/-- Whether every number in a value is finite. -/
def allFinite : Json → Bool
  | .real (.finite ..) => true
  | .real _ => false
  | .list items => allFiniteItems items
  | .object members => allFiniteMembers members
  | _ => true

/-- `allFinite` for the items of a list. -/
def allFiniteItems : List Json → Bool
  | [] => true
  | item :: rest => allFinite item && allFiniteItems rest

/-- `allFinite` for the members of an object. -/
def allFiniteMembers : List (Text × Json) → Bool
  | [] => true
  | (_, value) :: rest => allFinite value && allFiniteMembers rest

end

mutual

/-- How many values of a value stand one inside the other, itself included. -/
def height : Json → Nat
  | .list items => heightItems items + 1
  | .object members => heightMembers members + 1
  | _ => 1

/-- The greatest `height` of the items of a list. -/
def heightItems : List Json → Nat
  | [] => 0
  | item :: rest => max (height item) (heightItems rest)

/-- The greatest `height` of the members of an object. -/
def heightMembers : List (Text × Json) → Nat
  | [] => 0
  | (_, value) :: rest => max (height value) (heightMembers rest)

end

end Json

end Remittance
