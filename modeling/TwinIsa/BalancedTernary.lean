import TwinIsa.LineError
import TwinIsa.Text.Numeral
import TwinIsa.Word

/-!
Balanced ternary numbers and the way they are stored: every trit takes two bits, the least
significant trit the lowest two. One of the four codes of two bits stands for no trit.

A number is packed in two independent ways. `encode` takes trits off the signed number from the
low end; `encodeByExpansion` writes out the trits of the magnitude, most significant first, and
reads their codes as one binary numeral.
-/

namespace TwinIsa

inductive Trit where
  | negative
  | zero
  | positive
  deriving DecidableEq, Repr

namespace Trit

def value : Trit → Int
  | negative => -1
  | zero => 0
  | positive => 1

def code : Trit → Nat
  | negative => 0b11
  | zero => 0b00
  | positive => 0b01

def ofCode? (bits : Nat) : Option Trit :=
  match bits % 4 with
  | 0b00 => some zero
  | 0b01 => some positive
  | 0b11 => some negative
  | _ => none

@[simp] theorem ofCode?_code (trit : Trit) : ofCode? trit.code = some trit := by
  cases trit <;> rfl

def negate : Trit → Trit
  | negative => positive
  | zero => zero
  | positive => negative

@[simp] theorem value_negate (trit : Trit) : trit.negate.value = -trit.value := by
  cases trit <;> rfl

/-- The trit that a number with this remainder on division by three ends in. -/
def ofRemainder : Nat → Trit
  | 0 => zero
  | 1 => positive
  | _ => negative

def lowest (number : Int) : Trit :=
  ofRemainder (number % 3).toNat

/-- Two is three less one, so it ends in a negative trit. -/
example : lowest 2 = negative ∧ lowest (-2) = positive := by decide

def name : Trit → String
  | negative => "Neg"
  | zero => "Zero"
  | positive => "Pos"

end Trit

namespace BalancedTernary

def maxMagnitude (count : Nat) : Int :=
  (3 ^ count - 1) / 2

def fieldMask (count : Nat) : Nat :=
  Word.mask (2 * count)

def checkRange (count : Nat) (number : Int) : Except LineError Unit :=
  if number < -maxMagnitude count ∨ maxMagnitude count < number then
    .error (.immediateOutOfRange number (-maxMagnitude count) (maxMagnitude count))
  else
    .ok ()

def pack : Nat → Int → Nat
  | 0, _ => 0
  | count + 1, number =>
      let trit := Trit.lowest number
      trit.code + 4 * pack count ((number - trit.value) / 3)

example : pack 4 10 = 0b00010001 ∧ pack 4 (-1) = 0b11 := by decide

def encode (count : Nat) (number : Int) : Except LineError Word := do
  checkRange count number
  return UInt32.ofNat (pack count number &&& fieldMask count)

def unpack? : Nat → Nat → Option Int
  | 0, _ => some 0
  | count + 1, field => do
      let leading ← unpack? count (field / 4)
      let trit ← Trit.ofCode? field
      return leading * 3 + trit.value

example : unpack? 4 0b00010001 = some 10 ∧ unpack? 2 0b10 = none := by decide

def magnitudeTrits (magnitude : Nat) : List Trit :=
  if magnitude = 0 then []
  else Trit.ofRemainder (magnitude % 3) :: magnitudeTrits ((magnitude + 1) / 3)
termination_by magnitude

def expansion (number : Int) : List Trit :=
  let trits := (magnitudeTrits number.natAbs).reverse
  if number < 0 then trits.map Trit.negate else trits

def codeDigits (trit : Trit) : List Char :=
  Numeral.paddedDigits 2 2 trit.code

def encodeByExpansion (count : Nat) (number : Int) : Except LineError Word := do
  checkRange count number
  match expansion number with
  | [] => return 0
  | trits =>
      let numeral := trits.flatMap codeDigits
      match (Numeral.read? 2 numeral).filter (· < Word.count) with
      | some packed => return UInt32.ofNat (packed &&& fieldMask count)
      | none => throw (.malformedLiteral (String.ofList numeral))

end BalancedTernary

end TwinIsa
