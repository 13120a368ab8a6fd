import Remittance.Journal.Line

/-!
# Setting up the journal

Where the journal goes is kept as a count of the handlers that were installed and a threshold. Each
set-up installs one more handler, with the form that was asked for, and then sets the threshold.
-/

set_option autoImplicit false

namespace Remittance.Journal

/-- The form of journal lines. -/
inductive Form where
  | json
  | plain
deriving DecidableEq

/-- The form with a name; every other name means plain lines. -/
def Form.ofName (name : String) : Form := if name = "json" then .json else .plain

/-- The line of an entry in a form. -/
def Form.line : Form → Entry → Except Fault Text
  | .json, e => e.jsonLine
  | .plain, e => e.plainLine

/-- Where the journal goes. -/
structure Root where
  handlers : Nat
  threshold : Nat
deriving DecidableEq

/-- No handlers, and warnings from there on. -/
def Root.initial : Root := ⟨0, 30⟩

/-- The upper-case form of a character as far as ASCII letters come of it. -/
def upper (c : Char) : List Char :=
  match c.toNat with
  | 0x131 => ['I']
  | 0x17F => ['S']
  | 0xDF => ['S', 'S']
  | 0xFB00 => ['F', 'F']
  | 0xFB01 => ['F', 'I']
  | 0xFB02 => ['F', 'L']
  | 0xFB03 => ['F', 'F', 'I']
  | 0xFB04 => ['F', 'F', 'L']
  | 0xFB05 => ['S', 'T']
  | 0xFB06 => ['S', 'T']
  | _ => [c.toUpper]

/-- The thresholds by name. -/
def thresholds : List (String × Nat) :=
  [("DEBUG", 10), ("INFO", 20), ("WARNING", 30), ("WARN", 30), ("ERROR", 40), ("CRITICAL", 50),
    ("FATAL", 50), ("NOTSET", 0)]

/-- What a name stands for that is no threshold: a layout of lines, or the styles of layouts. -/
inductive Misnomer where
  | layout
  | styles
deriving DecidableEq

/-- The names of what is no threshold. -/
def misnomers : List (String × Misnomer) := [("BASIC_FORMAT", .layout), ("_STYLES", .styles)]

/-- The wording of the refusal of what is no threshold, which shows it. -/
def Misnomer.message : Misnomer → String
  | .layout => "Unknown level: '%(levelname)s:%(name)s:%(message)s'"
  | .styles =>
    "Level not an integer or a valid string: \x7b'%': (<class 'logging.PercentStyle'>, " ++
      "'%(levelname)s:%(name)s:%(message)s'), '\x7b': (<class 'logging.StrFormatStyle'>, " ++
      "'\x7blevelname\x7d:\x7bname\x7d:\x7bmessage\x7d'), '$': " ++
      "(<class 'logging.StringTemplateStyle'>, '$\x7blevelname\x7d:$\x7bname\x7d:" ++
      "$\x7bmessage\x7d')\x7d"

/-- The threshold with a name in any case; an unknown name means that of information. -/
def thresholdNamed (name : String) : Except Misnomer Nat :=
  let word := String.ofList (name.toList.flatMap upper)
  match misnomers.find? fun m => m.1 == word with
  | some m => .error m.2
  | none => .ok (((thresholds.find? fun t => t.1 == word).map Prod.snd).getD 20)

/-- Sets up the journal: the form of the new handler's lines, if the threshold has a name, and the
journal afterwards. -/
def Root.setUp (r : Root) (level form : String) : Except Misnomer Form × Root :=
  match thresholdNamed level with
  | .ok n => (.ok (.ofName form), ⟨r.handlers + 1, n⟩)
  | .error e => (.error e, { r with handlers := r.handlers + 1 })

end Remittance.Journal
