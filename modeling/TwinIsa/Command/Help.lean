import TwinIsa.Command.Arguments
import TwinIsa.Text.Blank

/-!
The help of a command: what it is for, how it is called, and then its operand, its options and its
flags in two columns. The first column is as wide as the longest that stands in it, and the second
is filled with words up to the width of the page.
-/

namespace TwinIsa.Command

/-! ## Columns -/

namespace Page

def width : Nat := 100

def line (words : List String) : String := " ".intercalate words

/-- Put words on lines one after the other, each on the line before it if it fits there. -/
def fill (width : Nat) (begun : List String) : List String → List (List String)
  | [] => [begun]
  | word :: rest =>
      if (line (begun ++ [word])).length ≤ width then fill width (begun ++ [word]) rest
      else begun :: fill width [word] rest

def indentation (width : Nat) : String :=
  String.ofList (List.replicate width ' ')

def entry (column : Nat) (subject about : String) : String :=
  let words := (Text.fields about.toList).map String.ofList
  let lines := (fill (width - column) (words.take 1) (words.drop 1)).map line
  subject ++ indentation (column - subject.length) ++
    ("\n" ++ indentation column).intercalate lines ++ "\n"

def entries (all : List (String × String)) : String :=
  let column := (all.map (·.1.length)).foldl max 0 + 2
  String.join (all.map fun (subject, about) => entry column subject about)

example : entries [("  <A>", "one"), ("  --bc", "two")] = "  <A>   one\n  --bc  two\n" := by
  decide +kernel

end Page

/-! ## What is said of a command -/

namespace Switch

def subject (switch : Switch) : String :=
  "      --" ++ switch.name ++
    match switch.value with
    | some value => " <" ++ value ++ ">"
    | none => ""

def explanation (switch : Switch) : String :=
  let preset := match switch.preset with
    | some preset => " [default: " ++ preset ++ "]"
    | none => ""
  let choices := match switch.choices with
    | [] => ""
    | choices => " [possible values: " ++ ", ".intercalate choices ++ "]"
  switch.about ++ preset ++ choices

end Switch

namespace Signature

def usage (signature : Signature) (name : String) : String :=
  "Usage: " ++ name ++ " [OPTIONS]" ++
    match signature.operand with
    | some operand => " <" ++ operand.name ++ ">"
    | none => ""

def switchEntries (signature : Signature) : List (String × String) :=
  signature.switches.map (fun switch => (switch.subject, switch.explanation)) ++
    [("  -h, --" ++ helpName, "Print help"), ("  -V, --" ++ versionName, "Print version")]

def operandText (signature : Signature) : String :=
  match signature.operand with
  | some operand => "Arguments:\n" ++ Page.entries [("  <" ++ operand.name ++ ">", operand.about)] ++
      "\n"
  | none => ""

def helpText (signature : Signature) (name : String) : String :=
  signature.about ++ "\n\n" ++ signature.usage name ++ "\n\n" ++ signature.operandText ++
    "Options:\n" ++ Page.entries signature.switchEntries

end Signature

end TwinIsa.Command
