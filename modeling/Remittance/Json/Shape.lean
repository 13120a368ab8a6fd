import Remittance.Json.Display

/-!
# Shapes of JSON objects

A shape says which members an object must have and of which kinds some of its members may be. A
check names one fault: a fault of the whole value before one of a member, and of the members the
one whose name is last in alphabetical order.
-/

set_option autoImplicit false

namespace Remittance.Json

/-- The kinds of value that a member may be limited to. -/
inductive Kind where
  | text
  | integer
  | null
  | object
deriving DecidableEq

/-- The word for a kind. -/
def Kind.name : Kind → String
  | .text => "string"
  | .integer => "integer"
  | .null => "null"
  | .object => "object"

/-- Whether a value is of a kind; a floating-point number without fraction is an integer. -/
def Kind.admits : Kind → Json → Bool
  | .text, .text _ => true
  | .integer, .int _ => true
  | .integer, .real x => x.toInt?.isSome
  | .null, .null => true
  | .object, .object _ => true
  | _, _ => false

/-- What a shape says about one member. -/
structure MemberRule where
  name : String
  kinds : List Kind
  nonEmpty : Bool := false

/-- The rules for an object: the members that must be there, and the rules for members. -/
structure Shape where
  required : List String
  rules : List MemberRule

/-- What is wrong with a value. -/
inductive ShapeFault where
  | kind (value : Json) (kinds : List Kind)
  | missing (name : String)
  | empty

/-- A fault and the member that has it; without a member, the fault is of the whole value. -/
structure ShapeError where
  member : Option String
  fault : ShapeFault

/-- The wording of a fault. -/
def ShapeFault.message : ShapeFault → String
  | .kind value kinds =>
    value.display ++ " is not of type " ++
      String.intercalate ", " (kinds.map fun k => Quoted.quote k.name)
  | .missing name => Quoted.quote name ++ " is a required property"
  | .empty => "'' should be non-empty"

/-- The wording of an error, after the path to its place. -/
def ShapeError.message (e : ShapeError) : String :=
  (match e.member with
    | some name => "$." ++ name
    | none => "$") ++ ": " ++ e.fault.message

/-- The fault of a member's value under its rule. -/
def MemberRule.fault? (rule : MemberRule) (value : Json) : Option ShapeFault :=
  if !rule.kinds.any fun k => k.admits value then some (.kind value rule.kinds)
  else match value with
    | .text s => if rule.nonEmpty && s.isEmpty then some .empty else none
    | _ => none

/-- The fault of the member that a rule is about, if the object has it. -/
def MemberRule.check (rule : MemberRule) (members : Members) : Option ShapeError := do
  let value ← members.get? rule.name
  let fault ← rule.fault? value
  pure ⟨some rule.name, fault⟩

/-- The values that the wordings of faults of a value show. All of them are put into words,
whichever fault is named. -/
def Shape.shown (shape : Shape) (value : Json) : List Json :=
  match value with
  | .object members =>
    shape.rules.filterMap fun rule =>
      match rule.check members with
      | some ⟨_, .kind value _⟩ => some value
      | _ => none
  | other => [other]

/-- The later of two faults of members in the order of their names. -/
def later (a b : ShapeError) : ShapeError :=
  if (a.member.getD "") < (b.member.getD "") then b else a

/-- The members of a value of a shape, or the fault that is named. -/
def Shape.check (shape : Shape) (value : Json) : Except ShapeError Members :=
  match value with
  | .object members =>
    match shape.required.find? fun name => (Members.get? members name).isNone with
    | some name => .error ⟨none, .missing name⟩
    | none =>
      match shape.rules.filterMap fun rule => rule.check members with
      | [] => .ok members
      | e :: more => .error (more.foldl later e)
  | other => .error ⟨none, .kind other [.object]⟩

end Remittance.Json
