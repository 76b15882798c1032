import TwinIsa.OpcodeTable.Basic

/-!
The tables that the machines come with. Both have the same instructions in the same order. A ternary
opcode is the binary one in base three, where the code of a negative trit serves as the digit two.
-/

namespace TwinIsa

def Isa.rows : Isa → List Row
  | .binary => [
      ⟨"MV", 0b00000, .registerPair⟩,
      ⟨"NOT", 0b00010, .registerPair⟩,
      ⟨"AND", 0b00100, .registerPair⟩,
      ⟨"OR", 0b00101, .registerPair⟩,
      ⟨"XOR", 0b00110, .registerPair⟩,
      ⟨"ADD", 0b00111, .registerPair⟩,
      ⟨"SUB", 0b01000, .registerPair⟩,
      ⟨"COMP", 0b01011, .registerPair⟩,
      ⟨"ANDI", 0b01100, .unsignedImmediate⟩,
      ⟨"ADDI", 0b01101, .unsignedImmediate⟩,
      ⟨"LT", 0b01110, .registerPair⟩,
      ⟨"EQ", 0b01111, .registerPair⟩,
      ⟨"LUI", 0b10000, .unsignedImmediate⟩,
      ⟨"LI", 0b10001, .unsignedImmediate⟩,
      ⟨"BEQ", 0b10010, .branchOffset⟩,
      ⟨"BNE", 0b10011, .branchOffset⟩,
      ⟨"LOAD", 0b10110, .memoryOffset⟩,
      ⟨"STORE", 0b10111, .memoryOffset⟩,
      ⟨"HALT", 0b11010, .noOperand⟩]
  | .ternary => [
      ⟨"MV", 0b000000, .registerPair⟩,
      ⟨"NOT", 0b000011, .registerPair⟩,
      ⟨"AND", 0b000101, .registerPair⟩,
      ⟨"OR", 0b000111, .registerPair⟩,
      ⟨"XOR", 0b001100, .registerPair⟩,
      ⟨"ADD", 0b001101, .registerPair⟩,
      ⟨"SUB", 0b001111, .registerPair⟩,
      ⟨"COMP", 0b010011, .registerPair⟩,
      ⟨"ANDI", 0b010100, .bigImmediate⟩,
      ⟨"ADDI", 0b010101, .bigImmediate⟩,
      ⟨"LT", 0b010111, .registerPair⟩,
      ⟨"EQ", 0b011100, .registerPair⟩,
      ⟨"LUI", 0b011101, .bigImmediate⟩,
      ⟨"LI", 0b011111, .bigImmediate⟩,
      ⟨"BEQ", 0b110000, .branchOffset⟩,
      ⟨"BNE", 0b110001, .branchOffset⟩,
      ⟨"LOAD", 0b110101, .memoryOffset⟩,
      ⟨"STORE", 0b110111, .memoryOffset⟩,
      ⟨"HALT", 0b111111, .noOperand⟩]

def Isa.builtin (isa : Isa) : OpcodeTable where
  isa := isa
  rows := isa.rows
  admissible := by cases isa <;> decide
  ascending := by cases isa <;> decide
  distinct := by cases isa <;> decide

end TwinIsa
