import TwinIsa.HexImage
import TwinIsa.Proofs.Text.Numeral

/-!
Words in hexadecimal. A numeral is read digit by digit with a check after each; since values only
grow, the check on the whole value decides. A word that is written has at least the digits of its
machine, and just these if it fits.
-/

namespace TwinIsa

theorem Numeral.valueFrom_cons {base digit : Nat} {head : Char}
    (found : digit? base head = some digit) (leading : Nat) (rest : List Char) :
    valueFrom base leading (head :: rest) = valueFrom base (leading * base + digit) rest := by
  rw [valueFrom, List.foldl_cons, found, Option.getD_some, valueFrom]

theorem Numeral.le_valueFrom {base : Nat} (positive : 0 < base) (leading : Nat)
    (text : List Char) : leading ≤ valueFrom base leading text := by
  induction text generalizing leading with
  | nil => exact Nat.le_refl leading
  | cons head rest induction =>
      have grown : leading ≤ leading * base + (digit? base head).getD 0 :=
        Nat.le_trans (Nat.le_mul_of_pos_right leading positive) (Nat.le_add_right _ _)
      rw [valueFrom, List.foldl_cons]
      exact Nat.le_trans grown (induction _)

namespace HexImage

theorem readDigits_eq_ok_iff {leading value : Nat} {text : List Char}
    (fits : leading < Word.count) :
    readDigits leading text = .ok value ↔
      (∀ character ∈ text, Numeral.isDigit 16 character = true) ∧
        value = Numeral.valueFrom 16 leading text ∧ value < Word.count := by
  induction text generalizing leading with
  | nil =>
      constructor
      · intro read
        cases read
        exact ⟨by simp, rfl, fits⟩
      · rintro ⟨_, rfl, _⟩
        rfl
  | cons head rest induction =>
      rw [List.forall_mem_cons, readDigits, Numeral.isDigit]
      cases found : Numeral.digit? 16 head with
      | none => simp
      | some digit =>
          rw [Numeral.valueFrom_cons found]
          dsimp only
          split
          next small =>
            rw [induction small]
            simp
          next large =>
            have grown := Numeral.le_valueFrom (by decide : 0 < 16) (leading * 16 + digit) rest
            simp only [reduceCtorEq, false_iff]
            rintro ⟨_, rfl, fitsWord⟩
            omega

theorem readNumber_of_digits {text : List Char} (nonempty : text ≠ [])
    (digits : ∀ character ∈ text, Numeral.isDigit 16 character = true)
    (fits : Numeral.value 16 text < Word.count) :
    readNumber text = .ok (Numeral.value 16 text) := by
  have read := (readDigits_eq_ok_iff (by decide)).mpr ⟨digits, rfl, fits⟩
  unfold readNumber
  split
  next rest =>
    have plus := digits '+' List.mem_cons_self
    contradiction
  next => rwa [List.isEmpty_eq_false_iff.mpr nonempty, if_neg (by decide)]

section

variable {isa : Isa} {line : String} (number : Nat) (rest : List String)

theorem readLines_cons_of_blank (blank : Text.trim line.toList = []) :
    readLines isa number (line :: rest) = readLines isa (number + 1) rest := by
  rw [readLines, blank]
  rfl

theorem readLines_cons_of_visible (visible : Text.trim line.toList ≠ []) :
    readLines isa number (line :: rest) = (do
      let word ← readWord isa number (Text.trim line.toList)
      let words ← readLines isa (number + 1) rest
      return word :: words) := by
  rw [readLines]
  simp only [List.isEmpty_eq_false_iff.mpr visible, Bool.false_eq_true, if_false]

end

end HexImage

/-! ## Written words -/

section

variable {isa : Isa} {word : Word}

theorem Isa.exists_digit_of_mem_formatWord {character : Char}
    (member : character ∈ (isa.formatWord word).toList) :
    ∃ digit < 16, character = digit.digitChar := by
  rw [Isa.formatWord, String.toList_ofList] at member
  exact Numeral.mem_paddedDigits (by decide) (by decide) member

theorem Isa.isBlank_formatWord :
    ∀ character ∈ (isa.formatWord word).toList, Text.isBlank character = false := by
  have noBlank : ∀ digit < 16, Text.isBlank digit.digitChar = false := by decide
  intro character member
  rcases exists_digit_of_mem_formatWord member with ⟨digit, less, rfl⟩
  exact noBlank digit less

theorem Isa.formatWord_ne_nil (isa : Isa) (word : Word) : (isa.formatWord word).toList ≠ [] := by
  rw [formatWord, String.toList_ofList, Numeral.paddedDigits, List.leftpad]
  simp [Numeral.digits_ne_nil]

theorem Isa.eq_of_formatWord_eq {other : Word} (same : isa.formatWord word = isa.formatWord other) :
    word = other := by
  have values := congrArg (fun text : String => Numeral.value 16 text.toList) same
  simp only [formatWord, String.toList_ofList] at values
  rw [Numeral.value_paddedDigits (by decide) (by decide),
    Numeral.value_paddedDigits (by decide) (by decide)] at values
  exact UInt32.toNat_inj.mp values

theorem Isa.length_formatWord (fits : word.toNat < 2 ^ isa.layout.wordBits) :
    (isa.formatWord word).length = isa.hexDigits := by
  have short : (Numeral.digits 16 word.toNat).length ≤ isa.hexDigits := by
    have enough : 2 ^ isa.layout.wordBits ≤ 16 ^ isa.hexDigits := by cases isa <;> decide
    exact (Nat.length_toDigits_le_iff (by decide) (by cases isa <;> decide)).mpr
      (Nat.lt_of_lt_of_le fits enough)
  rw [formatWord, String.length_ofList, Numeral.length_paddedDigits short]

end

end TwinIsa
