import Remittance.Decimal.Lenient
import Remittance.Decimal.Shortest
import Remittance.Json.Value
import Remittance.Text.LowerCase

/-!
# Settings

The ten settings of the gateway. Each is taken from what the caller gives, else from a variable of
the environment, else from its default. All that is wrong is reported, not only the first fault.
-/

set_option autoImplicit false

namespace Remittance

/-- The settings of the gateway. -/
structure Settings where
  network : String := "Test SDF Network ; September 2015"
  ledgerUrl : String := "https://horizon-testnet.stellar.org"
  baseFee : Int := 100
  timeout : Int := 0
  namesUrl : Option String := none
  complianceUrl : Option String := none
  httpTimeout : Binary64 := .ofInt 30
  deadline : Option Binary64 := none
  logLevel : String := "INFO"
  logForm : String := "json"
deriving DecidableEq

namespace Settings

/-- What is wrong with the value of a setting. -/
inductive Fault where
  | textKind
  | textTorn
  | integerText
  | integerSize
  | integerFraction
  | integerKind
  | notFinite
  | realText
  | realKind
  | refused
  | unknown
deriving DecidableEq

/-- The word for a fault. -/
def Fault.name : Fault → String
  | .textKind => "string_type"
  | .textTorn => "string_unicode"
  | .integerText => "int_parsing"
  | .integerSize => "int_parsing_size"
  | .integerFraction => "int_from_float"
  | .integerKind => "int_type"
  | .notFinite => "finite_number"
  | .realText => "float_parsing"
  | .realKind => "float_type"
  | .refused => "value_error"
  | .unknown => "extra_forbidden"

/-- The characters of a text, which must not be torn. -/
def whole (t : Text) : Except Fault String := t.string.mapError fun _ => .textTorn

/-- A text. -/
def readText : Json → Except Fault String
  | .text t => whole t
  | _ => .error .textKind

/-- The URL of a server that may be absent; a blank text means that it is. -/
def readUrl : Json → Except Fault (Option String)
  | .null => .ok none
  | .text t => (whole t).map fun s => if Blank.isBlankText s then none else some s
  | _ => .error .textKind

/-- An integer: a number without fraction, a truth value, or a text. -/
def readInteger : Json → Except Fault Int
  | .int n => .ok n
  | .bool b => .ok (if b then 1 else 0)
  | .real x =>
    match x.truncate?, x.toInt? with
    | none, _ => .error .notFinite
    | _, none => .error .integerFraction
    | _, some n => if n.natAbs < 0x8000000000000000 then .ok n else .error .integerSize
  | .text t => do
    match Lenient.integer (← whole t) with
    | .ok n => .ok n
    | .error .malformed => .error .integerText
    | .error .tooLong => .error .integerSize
  | _ => .error .integerKind

/-- A fee, which must be positive. -/
def readFee (j : Json) : Except Fault Int :=
  match readInteger j with
  | .ok n => if 0 < n then .ok n else .error .refused
  | .error f => .error f

/-- A number of seconds: a number that is not too great, a truth value, or a text. -/
def readSeconds : Json → Except Fault Binary64
  | .int n =>
    match Binary64.ofInt n with
    | .infinite _ => .error .realKind
    | x => .ok x
  | .bool b => .ok (.ofInt (if b then 1 else 0))
  | .real x => .ok x
  | .text t => do
    match Lenient.real? (← whole t) with
    | some x => .ok x
    | none => .error .realText
  | _ => .error .realKind

/-- A number of seconds that may be absent. -/
def readOptionalSeconds : Json → Except Fault (Option Binary64)
  | .null => .ok none
  | j => (readSeconds j).map some

/-- What is wrong with settings: names and faults. -/
abbrev Faults := List (Text × Fault)

/-- A value together with what was wrong on the way to it. -/
structure Checked (α : Type) where
  value : α
  faults : Faults

/-- The setting of a name, from what is given under the name. -/
def check {α : Type} (given : String → Option Json) (name : String) (default : α)
    (read : Json → Except Fault α) : Checked α :=
  match given name with
  | none => ⟨default, []⟩
  | some j =>
    match read j with
    | .ok a => ⟨a, []⟩
    | .error f => ⟨default, [(name, f)]⟩

/-- The names of all settings. -/
def names : List String :=
  ["network_passphrase", "horizon_url", "base_fee", "transaction_timeout_seconds",
    "federation_url", "compliance_url", "http_timeout_seconds", "request_deadline_seconds",
    "log_level", "log_format"]

/-- The settings that are given, and everything that is wrong with them. -/
def checkAll (given : String → Option Json) : Checked Settings :=
  let d : Settings := {}
  let network := check given "network_passphrase" d.network readText
  let ledgerUrl := check given "horizon_url" d.ledgerUrl readText
  let baseFee := check given "base_fee" d.baseFee readFee
  let timeout := check given "transaction_timeout_seconds" d.timeout readInteger
  let namesUrl := check given "federation_url" d.namesUrl readUrl
  let complianceUrl := check given "compliance_url" d.complianceUrl readUrl
  let httpTimeout := check given "http_timeout_seconds" d.httpTimeout readSeconds
  let deadline := check given "request_deadline_seconds" d.deadline readOptionalSeconds
  let logLevel := check given "log_level" d.logLevel readText
  let logForm := check given "log_format" d.logForm readText
  { value :=
      { network := network.value
        ledgerUrl := ledgerUrl.value
        baseFee := baseFee.value
        timeout := timeout.value
        namesUrl := namesUrl.value
        complianceUrl := complianceUrl.value
        httpTimeout := httpTimeout.value
        deadline := deadline.value
        logLevel := logLevel.value
        logForm := logForm.value }
    faults := network.faults ++ ledgerUrl.faults ++ baseFee.faults ++ timeout.faults ++
      namesUrl.faults ++ complianceUrl.faults ++ httpTimeout.faults ++ deadline.faults ++
      logLevel.faults ++ logForm.faults }

/-- What stands in front of the name of a setting in the environment, in lower case. -/
def variableMark : String := "bridge_"

/-- The value of the last variable for a setting, whatever the case of the variable's name. -/
def fromEnvironment? (environment : List (String × String)) (name : String) : Option String :=
  (environment.reverse.find? fun v => LowerCase.ofText v.1 == variableMark ++ name).map Prod.snd

/-- What the caller gives first for a setting, whatever the case of the name. -/
def fromArguments? (arguments : Json.Members) (name : String) : Option Json :=
  (arguments.find? fun a => (a.1.string?.map LowerCase.ofText) == some name).map Prod.snd

/-- What is given under a name: by the caller, or else by the environment. -/
def given (environment : List (String × String)) (arguments : Json.Members) (name : String) :
    Option Json :=
  match fromArguments? arguments name with
  | some j => some j
  | none => (fromEnvironment? environment name).map fun s => .text s

/-- The faults of arguments that no setting has the name of. -/
def unknown (arguments : Json.Members) : Faults :=
  (arguments.filter fun a =>
    !names.any fun name => a.1.string?.map LowerCase.ofText == some name).map
    fun a => (a.1, .unknown)

/-- Whether a fault comes before another one, by the name of the setting and then of the fault. -/
def precedes (a b : Text × Fault) : Bool :=
  if a.1 = b.1 then decide (a.2.name ≤ b.2.name)
  else decide (a.1.codes.map CodePoint.toNat < b.1.codes.map CodePoint.toNat)

/-- The settings from arguments and environment, or all that is wrong, in order. -/
def read (environment : List (String × String)) (arguments : Json.Members) :
    Except Faults Settings :=
  let checked := checkAll (given environment arguments)
  match checked.faults ++ unknown arguments with
  | [] => .ok checked.value
  | faults => .error (faults.mergeSort precedes)

/-- A number of seconds as text. -/
def secondsText (x : Binary64) : Json := .text (Shortest.text x)

/-- A value that may be absent. -/
def optional {α : Type} (write : α → Json) : Option α → Json
  | some a => write a
  | none => .null

/-- The settings as an object; numbers of seconds are texts. -/
def members (s : Settings) : Json.Members :=
  [("network_passphrase", .text s.network),
    ("horizon_url", .text s.ledgerUrl),
    ("base_fee", .int s.baseFee),
    ("transaction_timeout_seconds", .int s.timeout),
    ("federation_url", optional (fun url => .text url) s.namesUrl),
    ("compliance_url", optional (fun url => .text url) s.complianceUrl),
    ("http_timeout_seconds", secondsText s.httpTimeout),
    ("request_deadline_seconds", optional secondsText s.deadline),
    ("log_level", .text s.logLevel),
    ("log_format", .text s.logForm)]

/-- The settings that are kept once they were read, until they are cleared. -/
structure Cache where
  kept : Option Settings := none

/-- The kept settings, or those of the environment, which are then kept. The first part tells
whether they were kept before. -/
def Cache.get (c : Cache) (environment : List (String × String)) :
    Bool × Except Faults Settings × Cache :=
  match c.kept with
  | some s => (true, .ok s, c)
  | none =>
    match read environment [] with
    | .ok s => (false, .ok s, ⟨some s⟩)
    | .error f => (false, .error f, c)

/-- The cache without kept settings. -/
def Cache.clear (_ : Cache) : Cache := {}

end Settings

end Remittance
