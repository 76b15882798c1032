import TwinIsa.BalancedTernary

/-!
Immediate fields. An instruction stores a number as an unsigned or a two's-complement binary field,
or as packed trits. Each kind of field has a range of numbers, and every number in the range has one
field.
-/

namespace TwinIsa

def twosComplement (width : Nat) (number : Int) : Word :=
  UInt32.ofNat (number % 2 ^ width).toNat

example : twosComplement 8 (-128) = 0x80 := by decide

def signExtend (width : Nat) (field : Nat) : Int :=
  Int.bmod field (2 ^ width)

/-- Bits of the field above its width do not count. -/
example : signExtend 8 0x80 = -128 ∧ signExtend 8 0x17F = 127 := by decide

inductive ImmediateKind where
  | unsigned (bits : Nat)
  | signed (bits : Nat)
  | trits (count : Nat)
  deriving DecidableEq, Repr

namespace ImmediateKind

def width : ImmediateKind → Nat
  | unsigned bits => bits
  | signed bits => bits
  | trits count => 2 * count

def mask (kind : ImmediateKind) : Nat :=
  Word.mask kind.width

def least : ImmediateKind → Int
  | unsigned _ => 0
  | signed bits => -2 ^ (bits - 1)
  | trits count => -BalancedTernary.maxMagnitude count

def greatest : ImmediateKind → Int
  | unsigned bits => 2 ^ bits - 1
  | signed bits => 2 ^ (bits - 1) - 1
  | trits count => BalancedTernary.maxMagnitude count

example : (signed 5).least = -16 ∧ (signed 5).greatest = 15 ∧ (trits 4).greatest = 40 := by
  decide

def encode (kind : ImmediateKind) (number : Int) : Except LineError Word :=
  if number < kind.least ∨ kind.greatest < number then
    .error (.immediateOutOfRange number kind.least kind.greatest)
  else
    match kind with
    | unsigned _ => .ok (UInt32.ofNat number.toNat)
    | signed bits => .ok (twosComplement bits number)
    | trits count => BalancedTernary.encode count number

def decode (kind : ImmediateKind) (bits : Word) : Option Int :=
  let field := bits.toNat % 2 ^ kind.width
  match kind with
  | unsigned _ => some field
  | signed bits => some (signExtend bits field)
  | trits count => BalancedTernary.unpack? count field

end ImmediateKind

end TwinIsa
