import TwinIsa.Isa

/-!
Register operands: one ASCII letter, whichever it is, and the number of the register in decimal.
-/

namespace TwinIsa.Register

def isLetter (character : Char) : Bool :=
  ('a' ≤ character && character ≤ 'z') || ('A' ≤ character && character ≤ 'Z')

/-- The number that a register operand names, whether or not there is such a register. A number
that does not fit a word is not the number of a register at all. -/
def number? : List Char → Option Nat
  | letter :: digits =>
      if isLetter letter then (Numeral.read? 10 digits).filter (· < Word.count) else none
  | [] => none

example : number? ['R', '0', '3'] = some 3 ∧ number? ['R'] = none ∧ number? ['7'] = none := by
  decide

def read (layout : Layout) (token : String) : Except LineError Nat :=
  match number? token.toList with
  | none => .error (.malformedRegister token)
  | some register =>
      if register ≤ layout.greatestRegister then .ok register
      else .error (.registerOutOfRange token layout.greatestRegister)

end TwinIsa.Register
