import TwinIsa.Text.Numeral

/-!
Command-line arguments. Options are `--name value` or `--name=value`, flags are `--name`, and two
dashes alone end them, so that what follows are operands even if it begins with a dash. No option is
given twice. Arguments are taken in order: an error hides what follows it, and so does a request for
the help or the version.
-/

namespace TwinIsa.Command

inductive UsageError where
  | unexpected (argument : String)
  | repeated (name : String)
  | missingValue (name : String)
  | unwantedValue (name : String)
  | invalidValue (name value : String)
  | missingOperand (name : String)
  deriving DecidableEq, Repr

namespace UsageError

def message : UsageError → String
  | unexpected argument => "unexpected argument '" ++ argument ++ "'"
  | repeated name => "--" ++ name ++ " is given more than once"
  | missingValue name => "--" ++ name ++ " needs a value"
  | unwantedValue name => "--" ++ name ++ " takes no value"
  | invalidValue name value => "invalid value '" ++ value ++ "' for " ++ name
  | missingOperand name => name ++ " is missing"

end UsageError

inductive Argument where
  | help
  | version
  | flag (name : String)
  | option (name value : String)
  | operand (value : String)
  deriving DecidableEq, Repr

/-- An option of a command, or a flag, which has no value. -/
structure Switch where
  name : String
  /-- What the help calls the value. -/
  value : Option String := none
  about : String
  preset : Option String := none
  choices : List String := []
  deriving DecidableEq, Repr

structure Operand where
  name : String
  about : String
  deriving DecidableEq, Repr

structure Signature where
  about : String
  operand : Option Operand := none
  switches : List Switch

namespace Signature

def options (signature : Signature) : List String :=
  (signature.switches.filter (·.value.isSome)).map (·.name)

def flags (signature : Signature) : List String :=
  (signature.switches.filter (·.value.isNone)).map (·.name)

def helpName : String := "help"

def versionName : String := "version"

def splitValue (text : List Char) : String × Option String :=
  let name := String.ofList (text.takeWhile (· != '='))
  match text.dropWhile (· != '=') with
  | [] => (name, none)
  | _ :: value => (name, some (String.ofList value))

/-- Whether an argument is not taken for a value or an operand. A dash alone is one. -/
def looksLikeOption (argument : String) : Bool :=
  match argument.toList with
  | ['-'] => false
  | '-' :: _ => true
  | _ => false

inductive Form where
  | help
  | version
  | flag (name : String)
  | option (name value : String)
  /-- An option whose value is the next argument. -/
  | awaiting (name : String)
  | operand
  | endOfOptions

def bareForm (form : Form) (name : String) : Option String → Except UsageError Form
  | none => .ok form
  | some _ => .error (.unwantedValue name)

def longForm (signature : Signature) (argument name : String) (value? : Option String) :
    Except UsageError Form :=
  if name == helpName then
    bareForm .help name value?
  else if name == versionName then
    bareForm .version name value?
  else if signature.flags.contains name then
    bareForm (.flag name) name value?
  else if signature.options.contains name then
    match value? with
    | none => .ok (.awaiting name)
    | some value => .ok (.option name value)
  else
    .error (.unexpected argument)

def form (signature : Signature) (argument : String) : Except UsageError Form :=
  match argument.toList with
  | ['-', '-'] => .ok .endOfOptions
  | '-' :: '-' :: text =>
      let (name, value?) := splitValue text
      signature.longForm argument name value?
  | ['-'] => .ok .operand
  | '-' :: 'h' :: _ => .ok .help
  | '-' :: 'V' :: _ => .ok .version
  | '-' :: _ => .error (.unexpected argument)
  | _ => .ok .operand

/-- The arguments in order, up to the first error. `given` holds the names that came before, and
`awaiting` the option that has no value yet. -/
def scan (signature : Signature) (given : List String) (awaiting : Option String) :
    List String → List (Except UsageError Argument)
  | [] =>
      match awaiting with
      | some name => [.error (.missingValue name)]
      | none => []
  | argument :: rest =>
      match awaiting with
      | some name =>
          if looksLikeOption argument then [.error (.missingValue name)]
          else .ok (.option name argument) :: signature.scan given none rest
      | none =>
          match signature.form argument with
          | .error error => [.error error]
          | .ok .help => .ok .help :: signature.scan given none rest
          | .ok .version => .ok .version :: signature.scan given none rest
          | .ok .operand => .ok (.operand argument) :: signature.scan given none rest
          | .ok .endOfOptions => rest.map fun operand => .ok (.operand operand)
          | .ok (.flag name) =>
              if given.contains name then [.error (.repeated name)]
              else .ok (.flag name) :: signature.scan (name :: given) none rest
          | .ok (.option name value) =>
              if given.contains name then [.error (.repeated name)]
              else .ok (.option name value) :: signature.scan (name :: given) none rest
          | .ok (.awaiting name) =>
              if given.contains name then [.error (.repeated name)]
              else signature.scan (name :: given) (some name) rest

end Signature

/-! ## Values and requests -/

/-- A number that an argument spells: decimal digits after at most one plus sign. -/
def numberArgument? (greatest : Nat) (text : String) : Option Nat :=
  let digits := match text.toList with
    | '+' :: digits => digits
    | digits => digits
  (Numeral.read? 10 digits).filter (· ≤ greatest)

def pathArgument (name value : String) : Except UsageError String :=
  if value.isEmpty then .error (.invalidValue name value) else .ok value

inductive Request (settings : Type) where
  | help
  | version
  | perform (settings : settings)

def request {settings : Type} (set : settings → Argument → Except UsageError settings)
    (initial : settings) : List (Except UsageError Argument) → Except UsageError (Request settings)
  | [] => .ok (.perform initial)
  | .error error :: _ => .error error
  | .ok .help :: _ => .ok .help
  | .ok .version :: _ => .ok .version
  | .ok argument :: rest =>
      match set initial argument with
      | .ok next => request set next rest
      | .error error => .error error

end TwinIsa.Command
