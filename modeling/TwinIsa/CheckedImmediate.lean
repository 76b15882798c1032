import TwinIsa.Immediate
import TwinIsa.MachineInteger

/-!
Immediate fields computed on integers of a fixed size: numbers have 64 bits, fields and widths have
32. Each function has a result only if all of its steps have one. Trits are packed from the lowest
up and unpacked from the highest down, one for each turn of a loop.
-/

namespace TwinIsa

def twosComplementChecked (width : Nat) (number : Int) : Option Word := do
  let modulus ← Long.shiftLeft? 1 width
  let field ← Long.remainder? number modulus
  let bits ← Word.ofNat? field.toNat
  return UInt32.ofNat bits

/-- Computed with two shifts, which move the sign of a field to the end of 64 bits and back. -/
def signExtendChecked (width field : Nat) : Option Int := do
  let amount ← Word.subtract? 64 width
  let raised ← Long.shiftLeft? field amount
  Long.shiftRight? raised amount

namespace BalancedTernary

def maxMagnitudeChecked (count : Nat) : Option Int := do
  let power ← Long.power? 3 count
  let twice ← Long.subtract? power 1
  Long.divide? twice 2

def rangeChecked (count : Nat) : Option (Int × Int) := do
  let greatest ← maxMagnitudeChecked count
  let least ← Long.negate? greatest
  return (least, greatest)

def fieldMaskChecked (count : Nat) : Option Nat := do
  let width ← Word.multiply? count 2
  let bit ← Word.shiftLeft? 1 width
  Word.subtract? bit 1

/-- Pack `count` trits of `rest` at `position` and above it, beside the trits that are packed below.
What is left of the number comes first. -/
def packFrom (position : Nat) : Nat → Int → Nat → Option (Int × Nat)
  | 0, rest, packed => some (rest, packed)
  | count + 1, rest, packed => do
      let trit := Trit.lowest rest
      let difference ← Long.subtract? rest trit.value
      let next ← Long.divide? difference 3
      let amount ← Word.multiply? 2 position
      let bits ← Word.shiftLeft? trit.code amount
      packFrom (position + 1) count next (packed ||| bits)

def encodeChecked (count : Nat) (number : Int) : Option (Except LineError Word) := do
  let (least, greatest) ← rangeChecked count
  if number < least ∨ greatest < number then
    return .error (.immediateOutOfRange number least greatest)
  else
    let (rest, packed) ← packFrom 0 count number 0
    guard (rest = 0)
    let mask ← fieldMaskChecked count
    return .ok (UInt32.ofNat (packed &&& mask))

def unpackFrom (field : Nat) : Nat → Int → Option (Option Int)
  | 0, value => some (some value)
  | position + 1, value => do
      let amount ← Word.multiply? 2 position
      let bits ← Word.shiftRight? field amount
      match Trit.ofCode? bits with
      | none => return none
      | some trit =>
          let shifted ← Long.multiply? value 3
          let next ← Long.add? shifted trit.value
          unpackFrom field position next

end BalancedTernary

namespace ImmediateKind

def widthChecked : ImmediateKind → Option Nat
  | unsigned bits => some bits
  | signed bits => some bits
  | trits count => Word.multiply? count 2

def maskChecked (kind : ImmediateKind) : Option Nat := do
  let width ← kind.widthChecked
  let bit ← Word.shiftLeft? 1 width
  Word.subtract? bit 1

def rangeChecked : ImmediateKind → Option (Int × Int)
  | unsigned bits => do
      let count ← Long.shiftLeft? 1 bits
      let greatest ← Long.subtract? count 1
      return (0, greatest)
  | signed bits => do
      let magnitudeBits ← Word.subtract? bits 1
      let half ← Long.shiftLeft? 1 magnitudeBits
      let least ← Long.negate? half
      let greatest ← Long.subtract? half 1
      return (least, greatest)
  | trits count => BalancedTernary.rangeChecked count

def encodeChecked (kind : ImmediateKind) (number : Int) : Option (Except LineError Word) := do
  let (least, greatest) ← kind.rangeChecked
  if number < least ∨ greatest < number then
    return .error (.immediateOutOfRange number least greatest)
  else
    match kind with
    | unsigned _ =>
        let field ← Word.ofNat? number.toNat
        return .ok (UInt32.ofNat field)
    | signed bits => return .ok (← twosComplementChecked bits number)
    | trits count => BalancedTernary.encodeChecked count number

def decodeChecked (kind : ImmediateKind) (bits : Word) : Option (Option Int) := do
  let field := bits.toNat &&& (← kind.maskChecked)
  match kind with
  | unsigned _ => return some field
  | signed bits => return some (← signExtendChecked bits field)
  | trits count => BalancedTernary.unpackFrom field count 0

/-- Without a bit for the sign there is no range. -/
example : (trits 4).rangeChecked = some (-40, 40) ∧
    (trits 4).decodeChecked 0b00010001 = some (some 10) ∧ (signed 0).rangeChecked = none := by
  decide

end ImmediateKind

end TwinIsa
