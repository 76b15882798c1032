import TwinIsa.Format
import TwinIsa.Layout

/-!
The two machines. They share one assembly language and one plan of a word, and differ in the widths
of its fields, in their opcodes and in the way they store immediates. Each machine has a `Shape` for
every format that exists on it.
-/

namespace TwinIsa

inductive Isa where
  | binary
  | ternary
  deriving DecidableEq, Repr, Inhabited

namespace Isa

def name : Isa → String
  | binary => "binary"
  | ternary => "ternary"

def all : List Isa := [binary, ternary]

def ofName? (name : String) : Option Isa :=
  all.find? (·.name == name)

@[simp] theorem ofName?_name (isa : Isa) : ofName? isa.name = some isa := by
  cases isa <;> decide

/-- The binary machine has eight registers and five bits of opcode. The ternary machine has nine
registers, whose numbers are stored in plain binary, and an opcode of three trits. -/
def layout : Isa → Layout
  | binary =>
    { wordBits := 16
      opcodeBits := 5
      opcodeShift := 11
      registerBits := 3
      firstShift := 8
      secondShift := 5
      greatestRegister := 7
      bareHex := false }
  | ternary =>
    { wordBits := 18
      opcodeBits := 6
      opcodeShift := 12
      registerBits := 4
      firstShift := 8
      secondShift := 4
      greatestRegister := 8
      bareHex := true }

def shape? : Isa → Format → Option Shape
  | binary, .noOperand => some .bare
  | binary, .registerPair => some .registerPair
  | binary, .unsignedImmediate => some (.registerImmediate (.unsigned 8))
  | binary, .signedImmediate => some (.registerImmediate (.signed 8))
  | binary, .bigImmediate => none
  | binary, .smallImmediate => none
  | binary, .memoryOffset => some (.memory (.unsigned 5))
  | binary, .branchOffset => some (.registerImmediate (.signed 8))
  | ternary, .noOperand => some .bare
  | ternary, .registerPair => some .registerPair
  | ternary, .unsignedImmediate => none
  | ternary, .signedImmediate => none
  | ternary, .bigImmediate => some (.registerImmediate (.trits 4))
  | ternary, .smallImmediate => some (.registerImmediate (.trits 2))
  | ternary, .memoryOffset => some (.memory (.trits 2))
  | ternary, .branchOffset => some (.registerImmediate (.trits 4))

/-- Operands never reach into the opcode. -/
theorem usedBits_and_operandMask (isa : Isa) (format : Format) (shape : Shape)
    (available : isa.shape? format = some shape) :
    isa.layout.usedBits shape &&& isa.layout.operandMask = isa.layout.usedBits shape := by
  cases isa <;> cases format <;> simp [shape?] at available <;> subst available <;> decide

def hexDigits (isa : Isa) : Nat :=
  (isa.layout.wordBits + 3) / 4

example : binary.hexDigits = 4 ∧ ternary.hexDigits = 5 := by decide

def formatWord (isa : Isa) (word : Word) : String :=
  String.ofList (Numeral.paddedDigits 16 isa.hexDigits word.toNat)

/-- A word too wide for its machine takes the digits that it needs. -/
example : binary.formatWord 0x7 = "0007" ∧ binary.formatWord 0x12345 = "12345" := by decide

def spellsOpcode (isa : Isa) (opcode : Word) : Bool :=
  match isa with
  | binary => true
  | ternary => (BalancedTernary.unpack? (isa.layout.opcodeBits / 2) opcode.toNat).isSome

end Isa

end TwinIsa
