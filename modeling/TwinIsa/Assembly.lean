import TwinIsa.LineError
import TwinIsa.ProgramImage

/-!
What assembling a program results in: an image and the diagnostics of the lines that were left out
of it, or the error that the run was given up for. Either way there is a log of the run.
-/

namespace TwinIsa

/-- A line that was left out of the program: its number, its normalized text and the reason. -/
structure Diagnostic where
  line : Nat
  text : String
  error : LineError
  deriving DecidableEq, Repr

namespace Diagnostic

def message (diagnostic : Diagnostic) : String :=
  "line " ++ Numeral.decimalText diagnostic.line ++ ": error processing '" ++ diagnostic.text ++
    "': " ++ diagnostic.error.message

end Diagnostic

structure Assembly where
  image : ProgramImage
  diagnostics : Array Diagnostic
  /-- Whether the run ended at a terminator. -/
  terminated : Bool
  deriving DecidableEq, Repr

namespace Assembly

def summary (assembly : Assembly) : String :=
  "Successfully assembled " ++ Numeral.decimalText assembly.image.size ++ " " ++
    assembly.image.isa.name ++ " instructions"

end Assembly

inductive InputError where
  | notText
  | unavailable (reason : String)
  deriving DecidableEq, Repr

namespace InputError

def message : InputError → String
  | notText => "stream did not contain valid UTF-8"
  | unavailable reason => reason

end InputError

inductive AssemblyError where
  | full (error : CapacityExceeded)
  | input (error : InputError)
  deriving DecidableEq, Repr

namespace AssemblyError

def message : AssemblyError → String
  | full error => error.message
  | input error => "input unavailable: " ++ error.message

def causes : AssemblyError → List String
  | full _ => []
  | input error => [error.message]

end AssemblyError

inductive Level where
  | debug
  | information
  | warning
  deriving DecidableEq, Repr

def Level.name : Level → String
  | debug => "debug"
  | information => "info"
  | warning => "warn"

inductive Event where
  | encoded (address : Nat) (hex text : String)
  | skipped (diagnostic : Diagnostic)
  | terminatorReached (line : Nat)
  | finished (words errors : Nat) (isa : Isa)
  deriving DecidableEq, Repr

namespace Event

def level : Event → Level
  | encoded _ _ _ => .debug
  | skipped _ => .warning
  | terminatorReached _ => .information
  | finished _ _ _ => .information

def message : Event → String
  | encoded _ _ _ => "encoded"
  | skipped diagnostic => diagnostic.message
  | terminatorReached _ => "terminator reached"
  | finished _ _ _ => "assembly finished"

end Event

structure Run where
  events : Array Event
  outcome : Except AssemblyError Assembly

end TwinIsa
