import TwinIsa.Text.Blank
import TwinIsa.Text.Uppercase

/-!
Source lines. A line of three semicolons ends the program. On any other line a semicolon begins a
comment; commas are there for the reader and are deleted, and what blanks then separate are the
mnemonic, which is capitalized, and its operands, which are kept as written. A line without a
mnemonic is blank.
-/

namespace TwinIsa

structure SourceLine where
  mnemonic : String
  operands : List String
  deriving DecidableEq, Repr

namespace SourceLine

def fields (line : SourceLine) : List String :=
  line.mnemonic :: line.operands

def text (line : SourceLine) : String :=
  line.operands.foldl (fun text operand => text ++ " " ++ operand) line.mnemonic

example : (SourceLine.mk "MV" ["r0", "r1"]).text = "MV r0 r1" := by decide

def ofFields? : List (List Char) → Option SourceLine
  | [] => none
  | mnemonic :: operands =>
      some ⟨String.ofList (Text.uppercase mnemonic), operands.map String.ofList⟩

end SourceLine

inductive Line where
  | terminator
  | instruction (line : SourceLine)
  deriving DecidableEq, Repr

namespace Line

def terminatorText : List Char := [';', ';', ';']

def code (text : List Char) : List Char :=
  (text.takeWhile (· != ';')).filter (· != ',')

def ofText? (text : String) : Option Line :=
  if Text.trim text.toList = terminatorText then some terminator
  else (SourceLine.ofFields? (Text.fields (code text.toList))).map instruction

/-- A comma joins what it stands between, and the case of operands is kept. -/
example : ofText? "load\tR1,r2, 3 ; first" = some (instruction ⟨"LOAD", ["R1r2", "3"]⟩) := by
  decide +kernel

/-- Only a line of three semicolons and blanks is a terminator. -/
example : ofText? " ;;; " = some terminator ∧ ofText? ";;;;" = none ∧ ofText? ";;; end" = none := by
  decide +kernel

end Line

end TwinIsa
