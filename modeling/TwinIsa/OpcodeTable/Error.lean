import TwinIsa.Isa

/-!
The reasons for which rows are refused as an opcode table.
-/

namespace TwinIsa

/-- Why rows are not a table. All but the last name the row at fault by its capitalized mnemonic. -/
inductive TableError where
  | duplicateMnemonic (mnemonic : String)
  | duplicateOpcode (mnemonic other : String) (opcode : Word)
  | opcodeTooWide (mnemonic : String) (opcode : Word) (bits : Nat)
  | invalidTrit (mnemonic : String) (opcode : Word)
  | unsupportedFormat (mnemonic : String) (format : Format) (isa : Isa)
  | malformedText
  deriving DecidableEq, Repr

namespace TableError

def kind : TableError → String
  | duplicateMnemonic _ => "duplicate_mnemonic"
  | duplicateOpcode _ _ _ => "duplicate_opcode"
  | opcodeTooWide _ _ _ => "opcode_too_wide"
  | invalidTrit _ _ => "invalid_trit"
  | unsupportedFormat _ _ _ => "unsupported_format"
  | malformedText => "json"

def opcodeText (opcode : Word) : String :=
  "0b" ++ String.ofList (Numeral.digits 2 opcode.toNat)

def malformedDetail : String := "expected an array of rows with a mnemonic, an opcode and a format"

def message : TableError → String
  | duplicateMnemonic mnemonic => "duplicate mnemonic " ++ mnemonic
  | duplicateOpcode mnemonic other opcode =>
      mnemonic ++ ": opcode " ++ opcodeText opcode ++ " shared with " ++ other
  | opcodeTooWide mnemonic opcode bits =>
      mnemonic ++ ": opcode " ++ opcodeText opcode ++ " wider than " ++ Numeral.decimalText bits ++
        " bits"
  | invalidTrit mnemonic opcode =>
      mnemonic ++ ": opcode " ++ opcodeText opcode ++ " contains the unused trit code 0b10"
  | unsupportedFormat mnemonic format isa =>
      mnemonic ++ ": format " ++ format.name ++ " is not available on the " ++ isa.name ++ " ISA"
  | malformedText => "malformed opcode table: " ++ malformedDetail

end TableError

end TwinIsa
