import TwinIsa.Operands
import TwinIsa.Proofs.Text.Numeral

/-!
Registers and numbers as assembly writes them are read back: `R` before a register's number, and a
decimal numeral that no machine takes for a hexadecimal one.
-/

namespace TwinIsa

theorem Register.number?_decimal {register : Nat} (fits : register < Word.count) :
    Register.number? ('R' :: Numeral.digits 10 register) = some register := by
  have letter : Register.isLetter 'R' = true := by decide
  have digits : Numeral.read? 10 (Numeral.digits 10 register) = some register :=
    Numeral.read?_digits (by decide) (by decide) register
  rw [Register.number?, letter, digits]
  simp [fits]

theorem Operands.toList_registerText (register : Nat) :
    (Operands.registerText register).toList = 'R' :: Numeral.digits 10 register := by
  simp [Operands.registerText, Numeral.decimalText, Numeral.decimal]

theorem Register.read_registerText {layout : Layout} {register : Nat}
    (le : register ≤ layout.greatestRegister) (fits : register < Word.count) :
    Register.read layout (Operands.registerText register) = .ok register := by
  rw [Register.read, Operands.toList_registerText, Register.number?_decimal fits]
  simp [le]

namespace Literal

theorem splitSign_of_isDigit {head : Char} (rest : List Char)
    (digit : Numeral.isDigit 10 head = true) :
    splitSign (head :: rest) = (false, head :: rest) := by
  unfold splitSign
  split
  · simp_all [show Numeral.isDigit 10 '-' = false from by decide]
  · simp_all [show Numeral.isDigit 10 '+' = false from by decide]
  · rfl

theorem magnitude?_of_all_isDigit (bareHex : Bool) {text : List Char}
    (digits : text.all (Numeral.isDigit 10) = true) :
    magnitude? bareHex text = Numeral.read? 10 text := by
  unfold magnitude?
  split
  · simp [show Numeral.isDigit 10 'x' = false from by decide] at digits
  · simp [show Numeral.isDigit 10 'X' = false from by decide] at digits
  · rw [digits]
    simp

theorem splitSign_digits (magnitude : Nat) :
    splitSign (Numeral.digits 10 magnitude) = (false, Numeral.digits 10 magnitude) := by
  have digits : (Numeral.digits 10 magnitude).all (Numeral.isDigit 10) = true :=
    Numeral.all_isDigit_digits (by decide) (by decide) magnitude
  cases written : Numeral.digits 10 magnitude with
  | nil => exact absurd written (Numeral.digits_ne_nil 10 magnitude)
  | cons head rest =>
      rw [written, List.all_cons, Bool.and_eq_true] at digits
      exact splitSign_of_isDigit rest digits.1

theorem magnitude?_digits (bareHex : Bool) (magnitude : Nat) :
    magnitude? bareHex (Numeral.digits 10 magnitude) = some magnitude := by
  rw [magnitude?_of_all_isDigit bareHex (Numeral.all_isDigit_digits (by decide) (by decide) _),
    Numeral.read?_digits (by decide) (by decide)]

theorem read?_decimal (bareHex : Bool) {number : Int} (fits : number.natAbs ≤ greatestMagnitude) :
    read? bareHex (Numeral.decimal number) = some number := by
  have kept (magnitude : Nat) (le : magnitude ≤ greatestMagnitude) :
      (some magnitude).filter (fun magnitude => decide (magnitude ≤ greatestMagnitude)) =
        some magnitude := by
    simp [Option.filter, le]
  cases number with
  | ofNat magnitude =>
      rw [Numeral.decimal, read?, splitSign_digits]
      simp only [magnitude?_digits, kept magnitude fits]
      rfl
  | negSucc predecessor =>
      have split : splitSign ('-' :: Numeral.digits 10 (predecessor + 1)) =
          (true, Numeral.digits 10 (predecessor + 1)) := rfl
      rw [Numeral.decimal, read?, split]
      simp only [magnitude?_digits, kept (predecessor + 1) fits]
      rfl

theorem read_decimalText (bareHex : Bool) {number : Int}
    (fits : number.natAbs ≤ greatestMagnitude) :
    read bareHex (Numeral.decimalText number) = .ok number := by
  rw [read, Numeral.decimalText, String.toList_ofList, read?_decimal bareHex fits]

end Literal

end TwinIsa
