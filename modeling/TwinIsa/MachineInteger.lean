import TwinIsa.Word

/-!
Integers of a fixed size. They are taken as numbers, and every operation on them checks that its
exact result is of that size; where it is not, there is no result. A shift to the left is meant to
lose the bits that it moves out, so it only checks that the amount is the position of a bit.
-/

namespace TwinIsa

/-! ## With a sign, in 64 bits -/

namespace Long

def ofInt? (number : Int) : Option Int :=
  if -2 ^ (63 : Nat) ≤ number ∧ number < 2 ^ (63 : Nat) then some number else none

def add? (left right : Int) : Option Int := ofInt? (left + right)

def subtract? (left right : Int) : Option Int := ofInt? (left - right)

def negate? (number : Int) : Option Int := ofInt? (-number)

def multiply? (left right : Int) : Option Int := ofInt? (left * right)

def power? (base : Int) (exponent : Nat) : Option Int := ofInt? (base ^ exponent)

def divide? (number divisor : Int) : Option Int :=
  if divisor = 0 then none else ofInt? (number.tdiv divisor)

/-- The remainder that is not negative. It is computed along with the quotient, which must fit. -/
def remainder? (number divisor : Int) : Option Int := do
  let _ ← divide? number divisor
  return number % divisor

def shiftLeft? (number : Int) (amount : Nat) : Option Int :=
  if amount < 64 then some (Int.bmod (number * 2 ^ amount) (2 ^ (64 : Nat))) else none

def shiftRight? (number : Int) (amount : Nat) : Option Int :=
  if amount < 64 then some (number / 2 ^ amount) else none

example : shiftLeft? 0x80 56 = some (-0x8000000000000000) ∧
    shiftRight? (-0x8000000000000000) 56 = some (-128) := by decide

end Long

/-! ## Without a sign, in the 32 bits of a word -/

namespace Word

def ofNat? (number : Nat) : Option Nat :=
  if number < count then some number else none

def subtract? (left right : Nat) : Option Nat :=
  if right ≤ left then some (left - right) else none

def multiply? (left right : Nat) : Option Nat := ofNat? (left * right)

def shiftLeft? (number amount : Nat) : Option Nat :=
  if amount < 32 then some (number <<< amount % count) else none

def shiftRight? (number amount : Nat) : Option Nat :=
  if amount < 32 then some (number >>> amount) else none

end Word

/-! ## Without a sign, in 64 bits -/

namespace DoubleWord

def count : Nat := 2 ^ (64 : Nat)

def ofNat? (number : Nat) : Option Nat :=
  if number < count then some number else none

def add? (left right : Nat) : Option Nat := ofNat? (left + right)

/-- The magnitude of a number with a sign, of which the least has one that no other number has. -/
def magnitude? (number : Int) : Option Nat := ofNat? number.natAbs

example : magnitude? (-0x8000000000000000) = some 0x8000000000000000 ∧
    add? 0xFFFFFFFFFFFFFFFF 1 = none := by decide

end DoubleWord

end TwinIsa
