/-!
Numerals in any base up to sixteen. Digits are written lower case and read in either case; the value
of a run of digits is exact, and the caller decides how large is too large.
-/

namespace TwinIsa.Numeral

def digitValue? (character : Char) : Option Nat :=
  if '0' ≤ character ∧ character ≤ '9' then some (character.toNat - '0'.toNat)
  else if 'a' ≤ character ∧ character ≤ 'f' then some (character.toNat - 'a'.toNat + 10)
  else if 'A' ≤ character ∧ character ≤ 'F' then some (character.toNat - 'A'.toNat + 10)
  else none

def digit? (base : Nat) (character : Char) : Option Nat :=
  (digitValue? character).filter (· < base)

def isDigit (base : Nat) (character : Char) : Bool :=
  (digit? base character).isSome

example : digit? 16 'F' = some 15 ∧ digit? 10 'F' = none ∧ digit? 16 'g' = none := by decide

/-- The value of a run of digits, most significant first, after the digits that made up
`leading`. -/
def valueFrom (base : Nat) (leading : Nat) (digits : List Char) : Nat :=
  digits.foldl (fun value digit => value * base + (digit? base digit).getD 0) leading

def value (base : Nat) (digits : List Char) : Nat :=
  valueFrom base 0 digits

example : value 16 ['1', 'f'] = 31 := by decide

def read? (base : Nat) (text : List Char) : Option Nat :=
  if !text.isEmpty && text.all (isDigit base) then some (value base text) else none

example : read? 10 ['0', '4'] = some 4 ∧ read? 10 [] = none ∧ read? 10 ['+', '4'] = none := by
  decide

def digits (base : Nat) (number : Nat) : List Char :=
  Nat.toDigits base number

def paddedDigits (base width number : Nat) : List Char :=
  (digits base number).leftpad width '0'

example : paddedDigits 16 4 0x690A = ['6', '9', '0', 'a'] ∧
    paddedDigits 16 4 7 = ['0', '0', '0', '7'] := by decide

def decimal : Int → List Char
  | .ofNat magnitude => digits 10 magnitude
  | .negSucc predecessor => '-' :: digits 10 (predecessor + 1)

def decimalText (number : Int) : String :=
  String.ofList (decimal number)

example : decimal (-128) = ['-', '1', '2', '8'] ∧ decimal 0 = ['0'] := by decide

end TwinIsa.Numeral
