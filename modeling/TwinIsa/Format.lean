/-!
Formats: the classes that a table of opcodes puts instructions into. What operands a format takes
depends on the machine.
-/

namespace TwinIsa

inductive Format where
  | noOperand
  | registerPair
  | unsignedImmediate
  | signedImmediate
  | bigImmediate
  | smallImmediate
  | memoryOffset
  | branchOffset
  deriving DecidableEq, Repr

namespace Format

def name : Format → String
  | noOperand => "no_operand"
  | registerPair => "reg_reg"
  | unsignedImmediate => "reg_imm_unsigned"
  | signedImmediate => "reg_imm_signed"
  | bigImmediate => "reg_imm_big"
  | smallImmediate => "reg_imm_small"
  | memoryOffset => "mem_offset"
  | branchOffset => "branch_offset"

def all : List Format :=
  [noOperand, registerPair, unsignedImmediate, signedImmediate, bigImmediate, smallImmediate,
    memoryOffset, branchOffset]

theorem mem_all (format : Format) : format ∈ all := by
  cases format <;> decide

def ofName? (name : String) : Option Format :=
  all.find? (·.name == name)

@[simp] theorem ofName?_name (format : Format) : ofName? format.name = some format := by
  cases format <;> decide

end Format

end TwinIsa
