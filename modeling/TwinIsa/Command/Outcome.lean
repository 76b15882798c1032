import TwinIsa.Command.Arguments
import TwinIsa.Text.Numeral

/-!
What a command leaves behind besides files: a status and what it printed. A failure is printed with
what it goes back to; several causes are numbered, the outermost first.
-/

namespace TwinIsa.Command

structure Failure where
  message : String
  causes : List String
  deriving DecidableEq, Repr

namespace Failure

def causeText (head : String) (cause : String) : String :=
  let indentation := List.replicate head.length ' '
  head ++ String.ofList (cause.toList.flatMap fun character =>
    if character = '\n' then '\n' :: indentation else [character]) ++ "\n"

def numberHead (number : Nat) : String :=
  String.ofList ((Numeral.digits 10 number).leftpad 5 ' ') ++ ": "

def causesText : List String → String
  | [] => ""
  | [cause] => "\nCaused by:\n" ++ causeText "    " cause
  | causes =>
      "\nCaused by:\n" ++ String.join (causes.mapIdx fun number cause =>
        causeText (numberHead number) cause)

def text (failure : Failure) : String :=
  "Error: " ++ failure.message ++ "\n" ++ causesText failure.causes

example : (Failure.mk "reading t" ["gone"]).text =
    "Error: reading t\n\nCaused by:\n    gone\n" := by decide

end Failure

structure Outcome where
  status : Nat
  output : String
  errors : String
  deriving DecidableEq, Repr

namespace Outcome

def succeeded (output errors : String) : Outcome := ⟨0, output, errors⟩

def failed (failure : Failure) : Outcome := ⟨1, "", failure.text⟩

def misused (error : UsageError) : Outcome := ⟨2, "", "error: " ++ error.message ++ "\n"⟩

end Outcome

def versionText (name : String) : String :=
  name ++ " 0.1.0\n"

end TwinIsa.Command
