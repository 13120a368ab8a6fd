import Remittance.Journal.Record
import Remittance.Journal.Template
import Remittance.Json.Writer
import Remittance.Time.Civil

/-!
# Journal lines

A journal entry as one line of text: an object in JSON, with those of its values whose names are
known, or a plain line in front of the error that it may carry.
-/

set_option autoImplicit false

namespace Remittance.Journal

/-- An error that an entry carries: its label and its text. -/
structure ErrorNote where
  label : String
  text : Text

/-- The text of an error note; an empty text is left out. -/
def ErrorNote.message (e : ErrorNote) : Text :=
  if e.text.isEmpty then e.label else ↑(e.label ++ ": ") ++ e.text

/-- An entry of the journal: when, how much it matters, who wrote, what, and further values. -/
structure Entry where
  created : Moment.Seconds
  level : String
  channel : String
  template : String
  args : List Json := []
  values : Json.Members := []
  note : Option ErrorNote := none

/-- Why an entry has no line. -/
inductive Fault where
  | template (f : Template.Fault)
  | year (n : Int)
  | undefined
  | unbounded
  | farYear
  | longYear

/-- The wording of a fault. -/
def Fault.message : Fault → String
  | .template f => f.message
  | .year n => "year " ++ Numeral.ofInt n ++ " is out of range"
  | .undefined => "Invalid value NaN (not a number)"
  | .unbounded => "timestamp out of range for platform time_t"
  | .farYear => "[Errno 75] Value too large for defined data type"
  | .longYear => "signed integer is greater than maximum"

namespace Entry

/-- The message of an entry. -/
def message (e : Entry) : Except Fault Text :=
  (Template.message e.template e.args).mapError .template

/-- A moment whose seconds can be counted in 64 bits, and whose year, from 1900 on, in 32. -/
def checkMoment (m : Moment) : Except Fault Moment :=
  if m.seconds < -0x8000000000000000 ∨ 0x8000000000000000 ≤ m.seconds then .error .unbounded
  else if m.date.year < 1900 - 0x80000000 ∨ 1900 + 0x80000000 ≤ m.date.year then .error .farYear
  else .ok m

/-- The fault of a time that is no finite number. -/
def timeFault : Moment.Seconds → Fault
  | .real .undefined => .undefined
  | _ => .unbounded

/-- The fault of a year, whose number is kept in 32 bits. -/
def yearFault (year : Int) : Fault := .year (Int.bmod year 0x100000000)

/-- The text of the time of an entry. -/
def timestamp (e : Entry) : Except Fault String :=
  match Moment.ofTime? e.created with
  | none => .error (timeFault e.created)
  | some m => do
    let m ← checkMoment m
    m.iso?.mapError yearFault

/-- The values of an entry that are shown: those under known names that are not null, in the order
of the names. -/
def shown (e : Entry) : Json.Members :=
  Label.all.filterMap fun l =>
    match e.values.get? l.word with
    | none => none
    | some .null => none
    | some value => some (l.word, value)

/-- The members of the object that an entry is written as. -/
def members (e : Entry) : Except Fault Json.Members := do
  let time ← e.timestamp
  let message ← e.message
  let head : Json.Members :=
    [("timestamp", .text time), ("level", .text e.level), ("logger", .text e.channel),
      ("message", .text message)]
  pure (head ++ e.shown ++ (match e.note with
    | some note => [("exception", .text note.message)]
    | none => []))

/-- The line of an entry in JSON. -/
def jsonLine (e : Entry) : Except Fault Text :=
  e.members.map fun members => Json.write .spaced (.object members)

/-- The greatest year that a plain line can show. -/
def maxPlainYear : Int := 0x7FFFFFFF

/-- Date and time of day, with the thousandths of the second in three digits. -/
def plainTime (created : Moment.Seconds) : Except Fault String :=
  match Moment.below? created with
  | none => .error (timeFault created)
  | some m => do
    let m ← checkMoment m
    if maxPlainYear < m.date.year then throw .longYear
    let part := Template.Directive.integer ⟨{ zero := true }, 3, none⟩ 10 []
      (Moment.thousandths created)
    pure (Numeral.ofInt m.date.year ++ String.ofList (Moment.monthDay m.date ++ ' ' :: m.clock ++
      ',' :: part))

/-- A line and a further one; the break between them is not doubled. -/
def append (line further : Text) : Text :=
  if line.codes.getLast? = some (.char '\n') then line ++ further else line ++ "\n" ++ further

/-- The plain line of an entry. -/
def plainLine (e : Entry) : Except Fault Text := do
  let message ← e.message
  let time ← plainTime e.created
  let line := ↑(time ++ " " ++ e.level ++ " " ++ e.channel ++ ": ") ++ message
  pure (match e.note with
    | some note => append line note.message
    | none => line)

end Entry

end Remittance.Journal
