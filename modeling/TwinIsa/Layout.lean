import TwinIsa.Immediate

/-!
The plan of a word: an opcode above two register fields above an immediate. A `Layout` gives these
fields their places, and a `Shape` says which of them an instruction uses.
-/

namespace TwinIsa

inductive Shape where
  | bare
  | registerPair
  | registerImmediate (kind : ImmediateKind)
  | memory (kind : ImmediateKind)
  deriving DecidableEq, Repr

namespace Shape

def arity : Shape → Nat
  | bare => 0
  | registerPair => 2
  | registerImmediate _ => 2
  | memory _ => 3

def immediate? : Shape → Option ImmediateKind
  | bare => none
  | registerPair => none
  | registerImmediate kind => some kind
  | memory kind => some kind

end Shape

structure Layout where
  wordBits : Nat
  opcodeBits : Nat
  opcodeShift : Nat
  registerBits : Nat
  firstShift : Nat
  secondShift : Nat
  greatestRegister : Nat
  /-- Whether a literal may be hexadecimal without a mark. -/
  bareHex : Bool

namespace Layout

def opcodeMask (layout : Layout) : Nat := Word.mask layout.opcodeBits

def registerMask (layout : Layout) : Nat := Word.mask layout.registerBits

def operandMask (layout : Layout) : Nat := Word.mask layout.opcodeShift

def placeFirst (layout : Layout) (register : Nat) : Nat := register <<< layout.firstShift

def placeSecond (layout : Layout) (register : Nat) : Nat := register <<< layout.secondShift

def usedBits (layout : Layout) : Shape → Nat
  | .bare => 0
  | .registerPair =>
      layout.placeFirst layout.registerMask ||| layout.placeSecond layout.registerMask
  | .registerImmediate kind => layout.placeFirst layout.registerMask ||| kind.mask
  | .memory kind =>
      layout.placeFirst layout.registerMask ||| layout.placeSecond layout.registerMask ||| kind.mask

def register? (layout : Layout) (shift bits : Nat) : Option Nat :=
  let register := (bits >>> shift) % 2 ^ layout.registerBits
  if register ≤ layout.greatestRegister then some register else none

end Layout

end TwinIsa
