import TwinIsa.Text.Numeral

/-!
The reasons for which one source line cannot be encoded. Such a line is left out of the program and
reported; the lines around it are not affected.
-/

namespace TwinIsa

inductive LineError where
  | unknownMnemonic (mnemonic : String)
  | operandCount (mnemonic : String) (expected found : Nat)
  | malformedRegister (token : String)
  | registerOutOfRange (token : String) (greatest : Nat)
  | malformedLiteral (token : String)
  | immediateOutOfRange (value least greatest : Int)
  deriving DecidableEq, Repr

namespace LineError

def kind : LineError → String
  | unknownMnemonic _ => "unknown_mnemonic"
  | operandCount _ _ _ => "operand_count"
  | malformedRegister _ => "malformed_register"
  | registerOutOfRange _ _ => "register_out_of_range"
  | malformedLiteral _ => "malformed_literal"
  | immediateOutOfRange _ _ _ => "immediate_out_of_range"

def message : LineError → String
  | unknownMnemonic mnemonic => "unknown instruction: " ++ mnemonic
  | operandCount mnemonic expected found =>
      mnemonic ++ " takes " ++ Numeral.decimalText expected ++ " operand(s), found " ++
        Numeral.decimalText found
  | malformedRegister token => "invalid register format: " ++ token
  | registerOutOfRange token greatest =>
      "register " ++ token ++ " out of range (R0..R" ++ Numeral.decimalText greatest ++ ")"
  | malformedLiteral token => "invalid literal: " ++ token
  | immediateOutOfRange value least greatest =>
      "value " ++ Numeral.decimalText value ++ " out of range [" ++ Numeral.decimalText least ++
        ", " ++ Numeral.decimalText greatest ++ "]"

example : (operandCount "HALT" 0 1).message = "HALT takes 0 operand(s), found 1" := by decide

end LineError

end TwinIsa
