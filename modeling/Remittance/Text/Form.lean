import Remittance.Text.CodePoint
import Remittance.Text.Percent

/-!
# Forms

A form is a list of named texts. In its URL-encoded text the fields are joined by ampersands, and a
name is parted from its value by the first equals sign. A form that is sent may hold torn texts,
which have no such text; one that is received holds none.
-/

set_option autoImplicit false

namespace Remittance

/-- The fields of a form, in order. -/
abbrev Form := List (String × String)

/-- The fields of a form that is sent, in order. -/
abbrev Fields := List (String × Text)

namespace Form

/-- One field in URL-encoded text. -/
def encodePair (field : String × String) : String :=
  Percent.encodeField field.1 ++ "=" ++ Percent.encodeField field.2

/-- The URL-encoded text of a form. -/
def encode (form : Form) : String := String.intercalate "&" (form.map encodePair)

/-- The parts of a list between the separators. -/
def splitAt (sep : Char) : List Char → List (List Char)
  | [] => [[]]
  | c :: rest =>
    if c = sep then [] :: splitAt sep rest
    else match splitAt sep rest with
      | part :: parts => (c :: part) :: parts
      | [] => [[c]]

/-- The field that a part spells; without an equals sign its value is empty. -/
def decodePair (part : List Char) : String × String :=
  (Percent.decodeField (part.takeWhile (· ≠ '=')),
    Percent.decodeField ((part.dropWhile (· ≠ '=')).drop 1))

/-- The fields that the parts of a text spell. Empty parts are passed over, and so is a last part
without an equals sign, which is the beginning of a name. -/
def ofParts : List (List Char) → Form
  | [] => []
  | [part] => if part.contains '=' then [decodePair part] else []
  | part :: more => if part.isEmpty then ofParts more else decodePair part :: ofParts more

/-- The fields of a URL-encoded text. -/
def decodeChars (cs : List Char) : Form := ofParts (splitAt '&' cs)

/-- The fields of a URL-encoded body; each octet is read as the character of its number. -/
def decode (body : Octets) : Form := decodeChars (body.map fun o => Char.ofNat o.toNat)

/-- The last value given under a name. -/
def last? (form : Form) (name : String) : Option String :=
  (form.reverse.find? fun field => field.1 == name).map Prod.snd

end Form

/-- The fields as a form, or where the first torn value is torn. -/
def Fields.form : Fields → Except Text.Torn Form
  | [] => .ok []
  | (name, value) :: rest => do
    let s ← value.string
    let more ← Fields.form rest
    pure ((name, s) :: more)

end Remittance
