import TwinIsa.BalancedTernary
import TwinIsa.MachineInteger

/-!
The trits of a number computed on integers of 64 bits. A loop takes them off the magnitude from the
low end, each with a step that must not leave the integers, and collects them in an array that is
turned around when nothing is left.
-/

namespace TwinIsa

namespace BalancedTernary

/-- The lowest trit of a magnitude, and what is left of it. A remainder of two is one less than the
three that is carried. -/
def takeTrit? (magnitude : Nat) : Option (Trit × Nat) :=
  match magnitude % 3 with
  | 0 => some (.zero, magnitude / 3)
  | 1 => some (.positive, magnitude / 3)
  | _ => do
      let raised ← DoubleWord.add? magnitude 1
      return (.negative, raised / 3)

/-- The greatest number of 64 bits leaves no remainder, so there is room to carry below it. -/
example : takeTrit? 0xFFFFFFFFFFFFFFFE = some (.negative, 0x5555555555555555) := by decide

/-- The magnitude gets smaller, carry or not, so the loop comes to its end. -/
theorem takeTrit?_lt {magnitude rest : Nat} {trit : Trit} (positive : 0 < magnitude)
    (taken : takeTrit? magnitude = some (trit, rest)) : rest < magnitude := by
  unfold takeTrit? at taken
  split at taken
  · cases taken
    omega
  · cases taken
    omega
  · unfold DoubleWord.add? DoubleWord.ofNat? at taken
    split at taken
    · cases taken
      omega
    · cases taken

def collectTrits (isNegative : Bool) (magnitude : Nat) (trits : Array Trit) :
    Option (Array Trit) :=
  if 0 < magnitude then
    match _ : takeTrit? magnitude with
    | none => none
    | some (trit, rest) =>
        collectTrits isNegative rest (trits.push (if isNegative then trit.negate else trit))
  else
    some trits
termination_by magnitude
decreasing_by exact takeTrit?_lt ‹_› ‹_›

def expansionChecked (number : Int) : Option (List Trit) := do
  let magnitude ← DoubleWord.magnitude? number
  let trits ← collectTrits (number < 0) magnitude #[]
  return trits.toList.reverse

end BalancedTernary

end TwinIsa
