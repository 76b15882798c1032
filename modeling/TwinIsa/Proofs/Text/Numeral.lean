import TwinIsa.Text.Numeral

/-!
A written numeral is read back as its number, in every base and with any number of zeros in front.
Digits are taken off at the low end, as the numeral is written, so the inductions are on the number.
-/

namespace TwinIsa.Numeral

theorem digitValue?_digitChar : ∀ digit < 16, digitValue? digit.digitChar = some digit := by
  decide

theorem valueFrom_append (base leading : Nat) (front back : List Char) :
    valueFrom base leading (front ++ back) = valueFrom base (valueFrom base leading front) back :=
  List.foldl_append

theorem valueFrom_replicate_zero (base count : Nat) (positive : 0 < base) :
    valueFrom base 0 (List.replicate count '0') = 0 := by
  induction count with
  | zero => rfl
  | succ count induction =>
      have zero : digit? base '0' = some 0 := by
        rw [digit?, show digitValue? '0' = some 0 from rfl]
        simp [positive]
      rw [List.replicate_succ, valueFrom, List.foldl_cons, zero]
      simpa [valueFrom] using induction

theorem digits_ne_nil (base number : Nat) : digits base number ≠ [] :=
  Nat.toDigits_ne_nil

theorem read?_eq_some {base : Nat} {text : List Char} (nonempty : text ≠ [])
    (digits : text.all (isDigit base)) : read? base text = some (value base text) := by
  have notEmpty : text.isEmpty = false := by simpa using nonempty
  rw [read?, notEmpty, digits]
  rfl

theorem length_paddedDigits {base width number : Nat}
    (short : (digits base number).length ≤ width) :
    (paddedDigits base width number).length = width := by
  rw [paddedDigits, List.length_leftpad]
  omega

section

variable {base : Nat} (atMost : base ≤ 16)
include atMost

theorem digit?_digitChar {digit : Nat} (less : digit < base) :
    digit? base digit.digitChar = some digit := by
  rw [digit?, digitValue?_digitChar digit (Nat.lt_of_lt_of_le less atMost)]
  simp [less]

variable (atLeast : 1 < base)
include atLeast

theorem mem_digits {number : Nat} {character : Char} (member : character ∈ digits base number) :
    ∃ digit < base, character = digit.digitChar := by
  induction number using Nat.strongRecOn with
  | ind number induction =>
      rw [digits, Nat.toDigits_eq_if atLeast] at member
      split at member
      next less =>
        exact ⟨number, less, List.mem_singleton.mp member⟩
      next notLess =>
        rcases List.mem_append.mp member with front | last
        · exact induction (number / base) (Nat.div_lt_self (by omega) atLeast) front
        · exact ⟨number % base, Nat.mod_lt number (by omega), List.mem_singleton.mp last⟩

theorem all_isDigit_digits (number : Nat) : (digits base number).all (isDigit base) := by
  rw [List.all_eq_true]
  intro character member
  rcases mem_digits atMost atLeast member with ⟨digit, less, rfl⟩
  rw [isDigit, digit?_digitChar atMost less]
  rfl

theorem value_digits (number : Nat) : value base (digits base number) = number := by
  induction number using Nat.strongRecOn with
  | ind number induction =>
      rw [digits, Nat.toDigits_eq_if atLeast]
      split
      next less =>
        simp [value, valueFrom, digit?_digitChar atMost less]
      next notLess =>
        have last := Nat.mod_lt number (Nat.lt_of_succ_lt atLeast)
        have front := induction (number / base) (Nat.div_lt_self (by omega) atLeast)
        rw [value, digits] at front
        rw [value, valueFrom_append, front]
        simp only [valueFrom, List.foldl_cons, List.foldl_nil, digit?_digitChar atMost last,
          Option.getD_some]
        rw [Nat.mul_comm, Nat.div_add_mod]

theorem read?_digits (number : Nat) : read? base (digits base number) = some number := by
  rw [read?_eq_some (digits_ne_nil base number) (all_isDigit_digits atMost atLeast number),
    value_digits atMost atLeast]

theorem mem_paddedDigits {width number : Nat} {character : Char}
    (member : character ∈ paddedDigits base width number) :
    ∃ digit < base, character = digit.digitChar := by
  rw [paddedDigits, List.leftpad] at member
  rcases List.mem_append.mp member with padding | written
  · exact ⟨0, by omega, (List.mem_replicate.mp padding).2⟩
  · exact mem_digits atMost atLeast written

theorem isDigit_of_mem_paddedDigits {width number : Nat} {character : Char}
    (member : character ∈ paddedDigits base width number) : isDigit base character = true := by
  rcases mem_paddedDigits atMost atLeast member with ⟨digit, less, rfl⟩
  rw [isDigit, digit?_digitChar atMost less]
  rfl

theorem value_paddedDigits (width number : Nat) :
    value base (paddedDigits base width number) = number := by
  rw [paddedDigits, List.leftpad, value, valueFrom_append,
    valueFrom_replicate_zero _ _ (Nat.lt_of_succ_lt atLeast)]
  exact value_digits atMost atLeast number

end

end TwinIsa.Numeral
