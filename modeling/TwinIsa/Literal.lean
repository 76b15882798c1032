import TwinIsa.LineError
import TwinIsa.Text.Numeral
import TwinIsa.Word

/-!
Number literals: an optional sign, then a decimal numeral or a hexadecimal one after `0x`. Where a
machine allows it, a numeral with letters is hexadecimal without the mark; a numeral of decimal
digits alone stays decimal there too.
-/

namespace TwinIsa.Literal

def greatestMagnitude : Nat := 2 ^ (63 : Nat) - 1

/-- The sign at the front of a literal, as whether it negates, and the numeral behind it. -/
def splitSign : List Char → Bool × List Char
  | '-' :: body => (true, body)
  | '+' :: body => (false, body)
  | body => (false, body)

def magnitude? (bareHex : Bool) : List Char → Option Nat
  | '0' :: 'x' :: digits => Numeral.read? 16 digits
  | '0' :: 'X' :: digits => Numeral.read? 16 digits
  | digits =>
      if bareHex && !digits.all (Numeral.isDigit 10) then Numeral.read? 16 digits
      else Numeral.read? 10 digits

def read? (bareHex : Bool) (token : List Char) : Option Int := do
  let (negates, body) := splitSign token
  let magnitude ← (magnitude? bareHex body).filter (· ≤ greatestMagnitude)
  return if negates then -(magnitude : Int) else magnitude

/-- A literal of decimal digits alone is decimal even where bare hexadecimal is allowed. -/
example : read? true ['1', '0'] = some 10 ∧ read? true ['f', 'f'] = some 255 ∧
    read? false ['f', 'f'] = none ∧ read? false ['-', '0', 'X', 'f'] = some (-15) := by decide

def read (bareHex : Bool) (token : String) : Except LineError Int :=
  match read? bareHex token.toList with
  | some number => .ok number
  | none => .error (.malformedLiteral token)

end TwinIsa.Literal
