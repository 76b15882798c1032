import TwinIsa.Literal
import TwinIsa.Register

/-!
The operands of one instruction, as values: what the tokens of a line spell, and what the operand
bits of a word store. `read…` takes tokens to values, `bits` takes values to the bits of a word, and
`ofBits?` takes them back.
-/

namespace TwinIsa

inductive Operands where
  | bare
  | registerPair (first second : Nat)
  | registerImmediate (register : Nat) (immediate : Int)
  | memory (first second : Nat) (offset : Int)
  deriving DecidableEq, Repr

namespace Operands

def readRegisterPair (layout : Layout) (first second : String) : Except LineError Operands := do
  let first ← Register.read layout first
  let second ← Register.read layout second
  return registerPair first second

def readRegisterImmediate (layout : Layout) (register immediate : String) :
    Except LineError Operands := do
  let register ← Register.read layout register
  let immediate ← Literal.read layout.bareHex immediate
  return registerImmediate register immediate

def readMemory (layout : Layout) (first second offset : String) : Except LineError Operands := do
  let first ← Register.read layout first
  let second ← Register.read layout second
  let offset ← Literal.read layout.bareHex offset
  return memory first second offset

/-- The values that operand tokens spell, left to right; `none` if there are too few or too many. -/
def read? (layout : Layout) : Shape → List String → Option (Except LineError Operands)
  | .bare, [] => some (.ok bare)
  | .registerPair, [first, second] => some (readRegisterPair layout first second)
  | .registerImmediate _, [register, immediate] =>
      some (readRegisterImmediate layout register immediate)
  | .memory _, [first, second, offset] => some (readMemory layout first second offset)
  | _, _ => none

theorem read?_isSome_iff (layout : Layout) (shape : Shape) (tokens : List String) :
    (read? layout shape tokens).isSome ↔ tokens.length = shape.arity := by
  rcases tokens with _ | ⟨_, _ | ⟨_, _ | ⟨_, _ | ⟨_, _⟩⟩⟩⟩ <;> cases shape <;>
    simp [read?, Shape.arity]

def immediate? : Operands → Option Int
  | bare => none
  | registerPair _ _ => none
  | registerImmediate _ immediate => some immediate
  | memory _ _ offset => some offset

def registerFields (layout : Layout) : Operands → Nat
  | bare => 0
  | registerPair first second => layout.placeFirst first ||| layout.placeSecond second
  | registerImmediate register _ => layout.placeFirst register
  | memory first second _ => layout.placeFirst first ||| layout.placeSecond second

def bits (layout : Layout) (shape : Shape) (operands : Operands) : Except LineError Word :=
  let registers := UInt32.ofNat (operands.registerFields layout)
  match shape.immediate?, operands.immediate? with
  | some kind, some immediate => do
      let field ← kind.encode immediate
      return registers ||| field
  | _, _ => .ok registers

def ofBits? (layout : Layout) (bits : Word) : Shape → Option Operands
  | .bare => some bare
  | .registerPair => do
      let first ← layout.register? layout.firstShift bits.toNat
      let second ← layout.register? layout.secondShift bits.toNat
      return registerPair first second
  | .registerImmediate kind => do
      let register ← layout.register? layout.firstShift bits.toNat
      let immediate ← kind.decode bits
      return registerImmediate register immediate
  | .memory kind => do
      let first ← layout.register? layout.firstShift bits.toNat
      let second ← layout.register? layout.secondShift bits.toNat
      let offset ← kind.decode bits
      return memory first second offset

def registerText (register : Nat) : String :=
  "R" ++ Numeral.decimalText register

def texts : Operands → List String
  | bare => []
  | registerPair first second => [registerText first, registerText second]
  | registerImmediate register immediate => [registerText register, Numeral.decimalText immediate]
  | memory first second offset =>
      [registerText first, registerText second, Numeral.decimalText offset]

end Operands

end TwinIsa
