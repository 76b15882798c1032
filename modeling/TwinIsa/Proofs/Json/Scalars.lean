import Mathlib.Data.List.TakeWhile
import TwinIsa.Json.Token
import TwinIsa.Proofs.Text.Numeral

/-!
Words and numbers in JSON. A written integer is read as its value, and the spelling of a word or
number holds none of the characters that end it, so a scan keeps it together.
-/

namespace TwinIsa

theorem Numeral.eq_nil_of_digits_eq_zero_cons {base : Nat} (atMost : base ≤ 16)
    (atLeast : 1 < base) {number : Nat} {rest : List Char}
    (written : digits base number = '0' :: rest) : rest = [] := by
  induction number using Nat.strongRecOn generalizing rest with
  | ind number induction =>
      rw [digits, Nat.toDigits_eq_if atLeast] at written
      split at written
      next less => exact (List.cons.inj written).2.symm
      next notLess =>
        cases front : Nat.toDigits base (number / base) with
        | nil => exact absurd front Nat.toDigits_ne_nil
        | cons first others =>
            rw [front, List.cons_append] at written
            have zero : Nat.toDigits base (number / base) = '0' :: others := by
              rw [front, (List.cons.inj written).1]
            have alone := induction (number / base) (Nat.div_lt_self (by omega) atLeast) zero
            have small : number / base = 0 := by
              rw [← value_digits atMost atLeast (number / base), digits, zero, alone]
              exact valueFrom_replicate_zero base 1 (Nat.lt_of_succ_lt atLeast)
            exact absurd (Nat.lt_of_div_eq_zero (by omega) small) notLess

namespace Json

/-! ## Written integers -/

theorem isInteger?_digits (number : Nat) : isInteger? (Numeral.digits 10 number) = some true := by
  have allDigits : (Numeral.digits 10 number).all (Numeral.isDigit 10) :=
    Numeral.all_isDigit_digits (by decide) (by decide) number
  have whole : afterInteger? (Numeral.digits 10 number) = some [] := by
    unfold afterInteger?
    split
    next rest written =>
      rw [Numeral.eq_nil_of_digits_eq_zero_cons (by decide) (by decide) written]
    next =>
      cases written : Numeral.digits 10 number with
      | nil => exact absurd written (Numeral.digits_ne_nil 10 number)
      | cons first others =>
          rw [written, List.all_cons, Bool.and_eq_true] at allDigits
          rw [afterDigits?, if_pos allDigits.1]
          exact congrArg some (List.dropWhile_eq_nil_iff.mpr (List.all_eq_true.mp allDigits.2))
  rw [isInteger?, whole]
  rfl

/-- A written integer is neither a word nor a number of another kind. -/
theorem scalar?_decimal (value : Int) : scalar? (Numeral.decimal value) = some (integer value) := by
  cases value with
  | ofNat magnitude =>
      have digits : ∀ character ∈ Numeral.digits 10 magnitude, Numeral.isDigit 10 character :=
        List.all_eq_true.mp (Numeral.all_isDigit_digits (by decide) (by decide) magnitude)
      have noLetter {first : Char} {rest : List Char} (letter : Numeral.isDigit 10 first = false) :
          Numeral.digits 10 magnitude ≠ first :: rest := by
        intro written
        have digit := digits first (written ▸ List.mem_cons_self)
        rw [letter] at digit
        contradiction
      rw [Numeral.decimal, scalar?, if_neg (noLetter (by decide)), if_neg (noLetter (by decide)),
        if_neg (noLetter (by decide)), number?]
      · rw [isInteger?_digits, Numeral.value_digits (by decide) (by decide)]
        rfl
      · exact fun rest => noLetter (by decide)
  | negSucc predecessor =>
      rw [Numeral.decimal, scalar?, if_neg (by simp), if_neg (by simp), if_neg (by simp), number?,
        isInteger?_digits, Numeral.value_digits (by decide) (by decide)]
      rfl

/-! ## Characters of scalars -/

def Unbroken (spelling : List Char) : Prop :=
  ∀ character ∈ spelling, Scan.endsScalar character = false

-- Decided along the text: where characters are known to be finitely many, the instance that is
-- found by itself tries them all.
instance (spelling : List Char) : Decidable (Unbroken spelling) :=
  List.decidableBAll _ spelling

theorem unbroken_cons {first : Char} {rest : List Char} :
    Unbroken (first :: rest) ↔ Scan.endsScalar first = false ∧ Unbroken rest :=
  List.forall_mem_cons

def scalarEnds : List Char :=
  [' ', '\t', '\n', '\r', '"', '[', ']', '\x7b', '\x7d', ',', ':']

theorem mem_scalarEnds {character : Char} (ends : Scan.endsScalar character = true) :
    character ∈ scalarEnds := by
  simp only [Scan.endsScalar, isSpace, Bool.or_eq_true, beq_iff_eq] at ends
  rcases ends with (space | quote) | punctuation
  · rcases space with ((rfl | rfl) | rfl) | rfl <;> decide
  · subst quote
    decide
  · unfold punctuation? at punctuation
    split at punctuation
    case h_7 => contradiction
    all_goals decide

theorem endsScalar_of_isDigit {character : Char} (digit : Numeral.isDigit 10 character = true) :
    Scan.endsScalar character = false := by
  have noDigit : scalarEnds.any (Numeral.isDigit 10) = false := by decide
  cases ends : Scan.endsScalar character with
  | false => rfl
  | true =>
      have someDigit := List.any_eq_true.mpr ⟨character, mem_scalarEnds ends, digit⟩
      rw [noDigit] at someDigit
      contradiction

section

variable {spelling rest : List Char} (unbroken : Unbroken rest)
include unbroken

theorem unbroken_of_afterDigits? (read : afterDigits? spelling = some rest) :
    Unbroken spelling := by
  cases spelling with
  | nil => contradiction
  | cons first others =>
      rw [afterDigits?] at read
      split at read
      next digit =>
        refine unbroken_cons.mpr ⟨endsScalar_of_isDigit digit, fun character member => ?_⟩
        rw [← List.takeWhile_append_dropWhile (p := Numeral.isDigit 10) (l := others),
          Option.some.inj read] at member
        rcases List.mem_append.mp member with inDigits | behind
        · exact endsScalar_of_isDigit (List.mem_takeWhile_imp inDigits)
        · exact unbroken character behind
      next => contradiction

theorem unbroken_of_afterInteger? (read : afterInteger? spelling = some rest) :
    Unbroken spelling := by
  unfold afterInteger? at read
  split at read
  next others =>
    rw [Option.some.inj read]
    exact unbroken_cons.mpr ⟨by decide, unbroken⟩
  next => exact unbroken_of_afterDigits? unbroken read

theorem unbroken_of_afterFraction? (read : afterFraction? spelling = some rest) :
    Unbroken spelling := by
  unfold afterFraction? at read
  split at read
  next others => exact unbroken_cons.mpr ⟨by decide, unbroken_of_afterDigits? unbroken read⟩
  next => rwa [Option.some.inj read]

theorem unbroken_of_afterSign (read : afterDigits? (afterSign spelling) = some rest) :
    Unbroken spelling := by
  have digits := unbroken_of_afterDigits? unbroken read
  unfold afterSign at digits
  split at digits
  · exact unbroken_cons.mpr ⟨by decide, digits⟩
  · exact unbroken_cons.mpr ⟨by decide, digits⟩
  · exact digits

theorem unbroken_of_afterExponent? (read : afterExponent? spelling = some rest) :
    Unbroken spelling := by
  unfold afterExponent? at read
  split at read
  · exact unbroken_cons.mpr ⟨by decide, unbroken_of_afterSign unbroken read⟩
  · exact unbroken_cons.mpr ⟨by decide, unbroken_of_afterSign unbroken read⟩
  · rwa [Option.some.inj read]

end

theorem unbroken_of_isInteger? {spelling : List Char} {whole : Bool}
    (read : isInteger? spelling = some whole) : Unbroken spelling := by
  rcases Option.bind_eq_some_iff.mp read with ⟨behindInteger, integer, fractional⟩
  rcases Option.bind_eq_some_iff.mp fractional with ⟨last, exponential, ended⟩
  rcases Option.bind_eq_some_iff.mp exponential with ⟨behindFraction, fraction, exponent⟩
  have unbroken : Unbroken last := by
    cases last with
    | nil => exact nofun
    | cons => contradiction
  exact unbroken_of_afterInteger? (unbroken_of_afterFraction?
    (unbroken_of_afterExponent? unbroken exponent) fraction) integer

theorem unbroken_of_number? {spelling : List Char} {value : Json}
    (read : number? spelling = some value) : Unbroken spelling := by
  unfold number? at read
  split at read
  next magnitude =>
    rcases Option.bind_eq_some_iff.mp read with ⟨whole, magnitudeRead, _⟩
    exact unbroken_cons.mpr ⟨by decide, unbroken_of_isInteger? magnitudeRead⟩
  next =>
    rcases Option.bind_eq_some_iff.mp read with ⟨whole, spellingRead, _⟩
    exact unbroken_of_isInteger? spellingRead

theorem unbroken_of_scalar? {spelling : List Char} {value : Json}
    (read : scalar? spelling = some value) : Unbroken spelling := by
  unfold scalar? at read
  split at read
  next word => exact word ▸ by decide
  next =>
    split at read
    next word => exact word ▸ by decide
    next =>
      split at read
      next word => exact word ▸ by decide
      next => exact unbroken_of_number? read

end Json

end TwinIsa
