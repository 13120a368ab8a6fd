import Remittance.Decimal.Places
import Remittance.Json.Display

/-!
# Message templates

A template is a text with directives, each a percent sign, perhaps flags, a width and a precision,
and a letter that says how the next argument is shown. Two percent signs stand for one. Arguments
have places and no names, so a directive cannot ask for one by a key.
-/

set_option autoImplicit false

namespace Remittance.Template

/-- What is wrong with a template or with its arguments. -/
inductive Fault where
  | tooFew
  | tooMany
  | notReal (letter : Char) (found : String)
  | notInteger (letter : Char) (found : String)
  | notFloat (found : String)
  | notChar
  | charRange
  | widthNotInteger
  | width
  | precision
  | widthWord
  | precisionWord
  | precisionDigits
  | memory
  | noMembers
  | letter (c : Char) (position : Nat)
  | incomplete
  | undefined
  | infinite
  | hugeInteger
deriving DecidableEq

/-- Whether a letter is shown in a message as it is. -/
def isShown (c : Char) : Bool := 31 ≤ c.toNat && c.toNat < 127

/-- The wording of a fault. -/
def Fault.message : Fault → String
  | .tooFew => "not enough arguments for format string"
  | .tooMany => "not all arguments converted during string formatting"
  | .notReal c found =>
    String.ofList ['%', c] ++ " format: a real number is required, not " ++ found
  | .notInteger c found =>
    String.ofList ['%', c] ++ " format: an integer is required, not " ++ found
  | .notFloat found => "must be real number, not " ++ found
  | .notChar => "%c requires int or char"
  | .charRange => "%c arg not in range(0x110000)"
  | .widthNotInteger => "* wants int"
  | .width => "width too big"
  | .precision => "precision too big"
  | .widthWord => "Python int too large to convert to C ssize_t"
  | .precisionWord => "Python int too large to convert to C int"
  | .precisionDigits => "precision too large"
  | .memory => ""
  | .noMembers => "format requires a mapping"
  | .letter c position =>
    "unsupported format character '" ++ String.ofList [if isShown c then c else '?'] ++ "' (0x" ++
      String.ofList (Nat.toDigits 16 c.toNat) ++ ") at index " ++ Numeral.ofNat position
  | .incomplete => "incomplete format"
  | .undefined => "cannot convert float NaN to integer"
  | .infinite => "cannot convert float infinity to integer"
  | .hugeInteger => "int too large to convert to float"

/-- The word for the kind of a value. -/
def kindWord : Json → String
  | .null => "NoneType"
  | .bool _ => "bool"
  | .int _ => "int"
  | .real _ => "float"
  | .text _ => "str"
  | .list _ => "list"
  | .object _ => "dict"

/-- The flags of a directive. -/
structure Flags where
  left : Bool := false
  plus : Bool := false
  space : Bool := false
  full : Bool := false
  zero : Bool := false

/-- A directive without its letter. -/
structure Directive where
  flags : Flags
  width : Nat
  precision : Option Nat

/-- Characters filled up to the width of a directive; zeros go between sign and digits. -/
def Directive.fill (d : Directive) (numeric : Bool) (sign body : List Char) : List Char :=
  let missing := d.width - (sign.length + body.length)
  if d.flags.left then sign ++ body ++ List.replicate missing ' '
  else if numeric && d.flags.zero then sign ++ List.replicate missing '0' ++ body
  else List.replicate missing ' ' ++ sign ++ body

/-- The sign of a number. -/
def Directive.sign (d : Directive) (negative : Bool) : List Char :=
  if negative then ['-'] else if d.flags.plus then ['+'] else if d.flags.space then [' '] else []

/-- The most digits that a precision may ask of an integer. -/
def maxIntegerDigits : Nat := 0x7FFFFFFC

/-- The integer that is shown, unless the precision asks for too many digits. -/
def Directive.admit (d : Directive) (n : Int) : Except Fault Int :=
  if d.precision.getD 0 ≤ maxIntegerDigits then .ok n else .error .precisionDigits

/-- An integer in a base, with at least as many digits as the precision says. -/
def Directive.integer (d : Directive) (base : Nat) (mark : List Char) (n : Int) : List Char :=
  let ds := Nat.toDigits base n.natAbs
  let ds := List.replicate (d.precision.getD 0 - ds.length) '0' ++ ds
  d.fill true (d.sign (decide (n < 0)) ++ (if d.flags.full then mark else [])) ds

/-- A floating-point number, its magnitude being written by `write`. -/
def Directive.real (d : Directive) (upper : Bool) (write : Nat → Nat → List Char) :
    Binary64 → List Char
  | .undefined => d.fill true (d.sign false) (if upper then "NAN" else "nan").toList
  | .infinite negative =>
    d.fill true (d.sign negative) (if upper then "INF" else "inf").toList
  | .finite negative m e =>
    let r := Binary64.ratio m e
    d.fill true (d.sign negative) (write r.1 r.2)

/-- Code points filled up with spaces to the width of a directive. -/
def Directive.pad (d : Directive) (codes : List CodePoint) : List CodePoint :=
  let spaces := List.replicate (d.width - codes.length) (.char ' ')
  if d.flags.left then codes ++ spaces else spaces ++ codes

/-- A text cut to the precision. -/
def Directive.text (d : Directive) (codes : List CodePoint) : List CodePoint :=
  d.pad (match d.precision with
    | some n => codes.take n
    | none => codes)

/-- A shown text in which only ASCII characters are left as they are. -/
def ascii (s : String) : Text :=
  .ofChars (s.toList.flatMap fun c => if c.toNat < 0x80 then [c] else Quoted.numbered c.toNat)

/-- The integer that an argument stands for where fractions are cut off. -/
def wholeOf (letter : Char) : Json → Except Fault Int
  | .int n => .ok n
  | .bool b => .ok (if b then 1 else 0)
  | .real x =>
    match x.truncate? with
    | some n => .ok n
    | none => .error (if x = .undefined then .undefined else .infinite)
  | other => .error (.notReal letter (kindWord other))

/-- The integer that an argument is. -/
def integerOf (letter : Char) : Json → Except Fault Int
  | .int n => .ok n
  | .bool b => .ok (if b then 1 else 0)
  | other => .error (.notInteger letter (kindWord other))

/-- The floating-point number that an argument stands for. -/
def realOf : Json → Except Fault Binary64
  | .int n =>
    match Binary64.ofInt n with
    | .infinite _ => .error .hugeInteger
    | x => .ok x
  | .bool b => .ok (.ofInt (if b then 1 else 0))
  | .real x => .ok x
  | other => .error (.notFloat (kindWord other))

/-- The code point that an argument stands for. -/
def codeOf : Json → Except Fault CodePoint
  | .text t =>
    match t.codes with
    | [code] => .ok code
    | _ => .error .notChar
  | .int n => if 0 ≤ n ∧ n < 0x110000 then .ok (.ofNat n.toNat) else .error .charRange
  | .bool b => .ok (.ofNat (if b then 1 else 0))
  | _ => .error .notChar

/-- A number as its directive says; `position` is the place of the letter. -/
def Directive.showNumber (d : Directive) (letter : Char) (position : Nat) (value : Json) :
    Except Fault (List Char) :=
  let places := d.precision.getD 6
  let full := d.flags.full
  match letter with
  | 'd' | 'i' | 'u' => ((wholeOf letter value).bind d.admit).map (d.integer 10 [])
  | 'o' => ((integerOf letter value).bind d.admit).map (d.integer 8 ['0', 'o'])
  | 'x' => ((integerOf letter value).bind d.admit).map (d.integer 16 ['0', 'x'])
  | 'X' =>
    ((integerOf letter value).bind d.admit).map fun n =>
      (d.integer 16 ['0', 'x'] n).map Char.toUpper
  | 'f' | 'F' =>
    (realOf value).map (d.real (letter == 'F') fun n m => Places.fixed places n m full)
  | 'e' | 'E' =>
    (realOf value).map (d.real (letter == 'E') fun n m => Places.scientific places n m full letter)
  | 'g' =>
    (realOf value).map (d.real false fun n m => Places.general places n m full 'e')
  | 'G' =>
    (realOf value).map (d.real true fun n m => Places.general places n m full 'E')
  | _ => .error (.letter letter position)

/-- An argument as its directive says; `position` is the place of the letter. -/
def Directive.show (d : Directive) (letter : Char) (position : Nat) (value : Json) :
    Except Fault Text :=
  match letter with
  | 's' => .ok ⟨d.text value.plain.codes⟩
  | 'r' => .ok ⟨d.text (value.display : Text).codes⟩
  | 'a' => .ok ⟨d.text (ascii value.display).codes⟩
  | 'c' => (codeOf value).map fun code => ⟨d.pad [code]⟩
  | _ => (d.showNumber letter position value).map .ofChars

/-- The flags at the beginning of the input. -/
def readFlags (f : Flags) : List Char → Flags × List Char
  | '-' :: rest => readFlags { f with left := true } rest
  | '+' :: rest => readFlags { f with plus := true } rest
  | ' ' :: rest => readFlags { f with space := true } rest
  | '#' :: rest => readFlags { f with full := true } rest
  | '0' :: rest => readFlags { f with zero := true } rest
  | rest => (f, rest)

/-- The greatest count of some kind, the fault of a count beyond it that is written in the template,
and the fault of one that is an argument. -/
structure Limit where
  most : Nat
  written : Fault
  given : Fault

/-- The limit of a width. -/
def widthLimit : Limit := ⟨0x7FFFFFFFFFFFFFFF, .width, .widthWord⟩

/-- The limit of a precision. -/
def precisionLimit : Limit := ⟨0x7FFFFFFF, .precision, .precisionWord⟩

/-- A count that is an argument. The least number of its word, which has no opposite, counts as
none, but still as negative. -/
def Limit.checkGiven (l : Limit) (n : Int) : Except Fault (Bool × Nat) :=
  if n = -(l.most : Int) - 1 then .ok (true, 0)
  else if n.natAbs ≤ l.most then .ok (decide (n < 0), n.natAbs)
  else .error l.given

/-- The count at the beginning of the input, written there or taken from the next argument, and
whether it is negative. -/
def readCount (l : Limit) (args : List Json) (cs : List Char) :
    Except Fault ((Bool × Nat) × List Json × List Char) :=
  match cs with
  | '*' :: rest =>
    match args with
    | [] => .error .tooFew
    | .int n :: more => (l.checkGiven n).map fun n => (n, more, rest)
    | .bool b :: more => .ok ((false, if b then 1 else 0), more, rest)
    | _ => .error .widthNotInteger
  | _ =>
    let n := Numeral.value (cs.takeWhile Char.isDigit)
    if n ≤ l.most then .ok ((false, n), args, cs.dropWhile Char.isDigit) else .error l.written

/-- The precision at the beginning of the input, if there is one. -/
def readPrecision (args : List Json) (cs : List Char) :
    Except Fault (Option Nat × List Json × List Char) :=
  match cs with
  | '.' :: rest => do
    let ((negative, n), args, rest) ← readCount precisionLimit args rest
    pure (some (if negative then 0 else n), args, rest)
  | _ => .ok (none, args, cs)

/-- The input after one letter that says how wide a number is, which does not matter. -/
def afterSize (cs : List Char) : List Char :=
  match cs with
  | 'h' :: rest => rest
  | 'l' :: rest => rest
  | 'L' :: rest => rest
  | _ => cs

/-- The least width that no text in memory has. -/
def memoryWidth : Nat := 0x100000000

/-- What a directive shows, unless it asks for a text that is too long to be held. -/
def Directive.showWithin (d : Directive) (letter : Char) (position : Nat) (value : Json) :
    Except Fault Text :=
  if d.width < memoryWidth then d.show letter position value
  else ({ d with width := 0 }.show letter position value).bind fun _ => .error .memory

/-- What the directive at the beginning of the input shows, the arguments after it, and the rest of
the input. `total` counts the characters of the template. -/
def readDirective (total : Nat) (args : List Json) (cs : List Char) :
    Except Fault (Text × List Json × List Char) := do
  if cs.head? = some '(' then throw .noMembers
  let (flags, cs) := readFlags {} cs
  let ((negative, width), args, cs) ← readCount widthLimit args cs
  let flags := if negative then { flags with left := true } else flags
  let (precision, args, cs) ← readPrecision args cs
  match afterSize cs with
  | [] => .error .incomplete
  | letter :: rest =>
    match args with
    | [] => .error .tooFew
    | value :: more =>
      let position := total - rest.length - 1
      let shown ← Directive.showWithin ⟨flags, width, precision⟩ letter position value
      pure (shown, more, rest)

/-- The text of a template whose directives are shown one after the other. -/
def expand (total : Nat) : (fuel : Nat) → List Json → List Char → Except Fault Text
  | 0, _, _ => .ok ""
  | fuel + 1, args, cs =>
    match cs with
    | [] => if args.isEmpty then .ok "" else .error .tooMany
    | '%' :: '%' :: rest => do
      let more ← expand total fuel args rest
      pure ("%" ++ more)
    | '%' :: rest => do
      let (shown, args, rest) ← readDirective total args rest
      let more ← expand total fuel args rest
      pure (shown ++ more)
    | c :: rest => do
      let more ← expand total fuel args rest
      pure (.ofChars [c] ++ more)

/-- The message of a template; without arguments the template itself. -/
def message (template : String) (args : List Json) : Except Fault Text :=
  if args.isEmpty then .ok template
  else
    let cs := template.toList
    expand cs.length (cs.length + 1) args cs

end Remittance.Template
