import TwinIsa.Operands
import TwinIsa.OpcodeTable.Builtin
import TwinIsa.SourceLine

/-!
Instructions between text and words. `SourceLine.encode` takes a line to its word by a table;
`Instruction.ofWord?` takes a word apart by the same table, and `Instruction.text` writes it as a
line again. A word decodes only if some line encodes to it: bits that the operands do not use must
be clear, registers must exist and trits must be trits.
-/

namespace TwinIsa

def OpcodeTable.rowAndShape? (table : OpcodeTable) (mnemonic : String) : Option (Row × Shape) := do
  let row ← table.row? mnemonic
  let shape ← table.isa.shape? row.format
  return (row, shape)

/-- Every row of a table has operands on the table's machine. -/
theorem OpcodeTable.rowAndShape?_eq_none_iff (table : OpcodeTable) (mnemonic : String) :
    table.rowAndShape? mnemonic = none ↔ table.row? mnemonic = none := by
  unfold rowAndShape?
  cases found : table.row? mnemonic with
  | none => simp
  | some row =>
      have available := (table.admissible row (List.mem_of_find?_eq_some found)).available
      cases shape : table.isa.shape? row.format with
      | none => simp [shape] at available
      | some shape => simp [shape]

def OpcodeTable.assembleWord (table : OpcodeTable) (row : Row) (operandBits : Word) : Word :=
  UInt32.ofNat (row.opcode.toNat <<< table.isa.layout.opcodeShift) ||| operandBits

namespace SourceLine

/-- The word that a line stands for. Of several faults the first is reported: the mnemonic, the
number of operands, the operands left to right, the range of the immediate. -/
def encode (table : OpcodeTable) (line : SourceLine) : Except LineError Word :=
  match table.rowAndShape? line.mnemonic with
  | none => .error (.unknownMnemonic line.mnemonic)
  | some (row, shape) =>
      match Operands.read? table.isa.layout shape line.operands with
      | none => .error (.operandCount line.mnemonic shape.arity line.operands.length)
      | some outcome => do
          let operands ← outcome
          let operandBits ← operands.bits table.isa.layout shape
          return table.assembleWord row operandBits

end SourceLine

structure Instruction where
  mnemonic : String
  opcode : Word
  format : Format
  operands : Operands
  deriving DecidableEq, Repr

namespace Instruction

def ofWord? (table : OpcodeTable) (word : Word) : Option Instruction := do
  let layout := table.isa.layout
  guard (word.toNat < 2 ^ layout.wordBits)
  let row ← table.rowOfOpcode? (UInt32.ofNat (word.toNat >>> layout.opcodeShift))
  let shape ← table.isa.shape? row.format
  let operandBits := UInt32.ofNat (word.toNat &&& layout.operandMask)
  guard (operandBits.toNat &&& layout.usedBits shape = operandBits.toNat)
  let operands ← Operands.ofBits? layout operandBits shape
  return ⟨row.mnemonic, row.opcode, row.format, operands⟩

def text (instruction : Instruction) : String :=
  match instruction.operands.texts with
  | [] => instruction.mnemonic
  | first :: others =>
      others.foldl (fun text operand => text ++ ", " ++ operand)
        (instruction.mnemonic ++ " " ++ first)

example : (Instruction.mk "LOAD" 0b110101 .memoryOffset (.memory 1 2 (-4))).text =
    "LOAD R1, R2, -4" := by decide

example : (ofWord? Isa.binary.builtin 0x690A).map text = some "ADDI R1, 10" := by decide

/-- A halt instruction has no operands, so no bit below its opcode may be set. -/
example : ofWord? Isa.binary.builtin 0xD001 = none := by decide

def sourceLine (instruction : Instruction) : SourceLine :=
  ⟨instruction.mnemonic, instruction.operands.texts⟩

end Instruction

end TwinIsa
