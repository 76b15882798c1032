import Mathlib.Data.List.Induction
import TwinIsa.Proofs.LineGrammar

/-!
The language of number literals. Numerals are described by how they grow digit by digit, literals by
how they are put together of a sign, a mark and a numeral. A literal is read if and only if the
language has it with a magnitude that is not too large, and the number is the one that it spells
there. Numbers are read back from their decimal and from their marked hexadecimal form.
-/

namespace TwinIsa

/-! ## Numerals -/

namespace Numeral

def Denotes (base : Nat) (character : Char) (digit : Nat) : Prop :=
  digit < base ∧ (character = digit.digitChar ∨ character = digit.digitChar.toUpper)

instance (base : Nat) (character : Char) (digit : Nat) :
    Decidable (Denotes base character digit) :=
  inferInstanceAs (Decidable (_ ∧ _))

/-- A numeral of a base: a digit, or a numeral and one more digit, which counts once where the others
count `base` times as much as before. -/
inductive Spells (base : Nat) : List Char → Nat → Prop
  | single {character : Char} {digit : Nat} (denotes : Denotes base character digit) :
      Spells base [character] digit
  | concat {text : List Char} {number : Nat} {character : Char} {digit : Nat}
      (front : Spells base text number) (denotes : Denotes base character digit) :
      Spells base (text ++ [character]) (number * base + digit)

theorem digitValue?_of_written : ∀ digit < 16,
    digitValue? digit.digitChar = some digit ∧ digitValue? digit.digitChar.toUpper = some digit := by
  decide

/-- Digits are ASCII characters, so it is enough to look at those. -/
theorem denotes_of_ascii : ∀ code < 128, ∀ digit ∈ digitValue? (Char.ofNat code),
    Denotes 16 (Char.ofNat code) digit := by
  decide

theorem toNat_lt_of_digitValue? {character : Char} {digit : Nat}
    (found : digitValue? character = some digit) : character.toNat < 128 := by
  have below {last : Char} (ascii : last.toNat < 128) (le : character ≤ last) :
      character.toNat < 128 := Nat.lt_of_le_of_lt le ascii
  unfold digitValue? at found
  split at found
  next inside => exact below (by decide) inside.2
  next =>
    split at found
    next inside => exact below (by decide) inside.2
    next =>
      split at found
      next inside => exact below (by decide) inside.2
      next => contradiction

theorem digitValue?_eq_some_iff {character : Char} {digit : Nat} :
    digitValue? character = some digit ↔ Denotes 16 character digit := by
  constructor
  · intro found
    have denotes := denotes_of_ascii character.toNat (toNat_lt_of_digitValue? found) digit
    rw [Char.ofNat_toNat] at denotes
    exact denotes found
  · rintro ⟨less, rfl | rfl⟩
    · exact (digitValue?_of_written digit less).1
    · exact (digitValue?_of_written digit less).2

section

variable {base : Nat} (atMost : base ≤ 16)
include atMost

theorem digit?_eq_some_iff {character : Char} {digit : Nat} :
    digit? base character = some digit ↔ Denotes base character digit := by
  rw [digit?, Option.filter_eq_some_iff, digitValue?_eq_some_iff, decide_eq_true_eq]
  constructor
  · rintro ⟨⟨_, written⟩, less⟩
    exact ⟨less, written⟩
  · rintro ⟨less, written⟩
    exact ⟨⟨Nat.lt_of_lt_of_le less atMost, written⟩, less⟩

theorem isDigit_iff {character : Char} :
    isDigit base character = true ↔ ∃ digit, Denotes base character digit := by
  rw [isDigit, Option.isSome_iff_exists]
  exact exists_congr fun _ => digit?_eq_some_iff atMost

omit atMost in
theorem value_nil : value base [] = 0 := rfl

omit atMost in
theorem value_concat (text : List Char) (character : Char) :
    value base (text ++ [character]) =
      value base text * base + (digit? base character).getD 0 := by
  rw [value, valueFrom_append]
  rfl

theorem read?_eq_some_iff {text : List Char} {number : Nat} :
    read? base text = some number ↔ Spells base text number := by
  constructor
  · intro found
    rw [read?, Option.ite_none_right_eq_some, Bool.and_eq_true, Bool.not_eq_true',
      List.isEmpty_eq_false_iff, List.all_eq_true] at found
    rcases found with ⟨⟨nonempty, digits⟩, whole⟩
    cases whole
    -- The last digit is the one that a numeral grew by.
    induction text using List.reverseRecOn with
    | nil => contradiction
    | append_singleton front last induction =>
        rw [List.forall_mem_append, List.forall_mem_singleton] at digits
        rcases (isDigit_iff atMost).mp digits.2 with ⟨digit, denotes⟩
        rw [value_concat, (digit?_eq_some_iff atMost).mpr denotes, Option.getD_some]
        rcases Decidable.em (front = []) with rfl | frontNonempty
        · rw [value_nil, Nat.zero_mul, Nat.zero_add]
          exact .single denotes
        · exact .concat (induction frontNonempty digits.1) denotes
  · intro spells
    suffices holds : text ≠ [] ∧ (∀ character ∈ text, isDigit base character = true) ∧
        value base text = number by
      rw [read?_eq_some holds.1 (List.all_eq_true.mpr holds.2.1), holds.2.2]
    induction spells with
    | @single character digit denotes =>
        refine ⟨List.cons_ne_nil character [], ?_, ?_⟩
        · rw [List.forall_mem_singleton]
          exact (isDigit_iff atMost).mpr ⟨digit, denotes⟩
        · rw [← List.nil_append [character], value_concat,
            (digit?_eq_some_iff atMost).mpr denotes, Option.getD_some, value_nil, Nat.zero_mul,
            Nat.zero_add]
    | @concat front number character digit _ denotes induction =>
        rcases induction with ⟨_, digits, whole⟩
        refine ⟨List.append_ne_nil_of_right_ne_nil front (List.cons_ne_nil character []), ?_, ?_⟩
        · rw [List.forall_mem_append, List.forall_mem_singleton]
          exact ⟨digits, (isDigit_iff atMost).mpr ⟨digit, denotes⟩⟩
        · rw [value_concat, whole, (digit?_eq_some_iff atMost).mpr denotes, Option.getD_some]

theorem spells_iff {text : List Char} {number : Nat} :
    Spells base text number ↔
      text ≠ [] ∧ (∀ character ∈ text, isDigit base character = true) ∧
        value base text = number := by
  rw [← read?_eq_some_iff atMost, read?, Option.ite_none_right_eq_some, Bool.and_eq_true,
    Bool.not_eq_true', List.isEmpty_eq_false_iff, List.all_eq_true, Option.some_inj, and_assoc]

theorem Spells.isDigit_of_mem {text : List Char} {number : Nat} (spells : Spells base text number)
    {character : Char} (member : character ∈ text) : isDigit base character = true :=
  ((spells_iff atMost).mp spells).2.1 character member

theorem Spells.isDigit_sixteen_of_mem {text : List Char} {number : Nat}
    (spells : Spells base text number) {character : Char} (member : character ∈ text) :
    isDigit 16 character = true := by
  rcases (isDigit_iff atMost).mp (spells.isDigit_of_mem atMost member) with ⟨digit, less, written⟩
  exact (isDigit_iff (Nat.le_refl 16)).mpr ⟨digit, Nat.lt_of_lt_of_le less atMost, written⟩

end

end Numeral

/-! ## Literals -/

namespace Literal

/-- What stands behind the sign of a literal, and its magnitude: a hexadecimal numeral with its mark
or a decimal numeral. Where a machine allows it, what is no decimal numeral may be a hexadecimal one
without the mark. -/
inductive Magnitude (bareHex : Bool) : List Char → Nat → Prop
  | marked {mark : Char} {digits : List Char} {magnitude : Nat} (isMark : mark = 'x' ∨ mark = 'X')
      (spelled : Numeral.Spells 16 digits magnitude) :
      Magnitude bareHex ('0' :: mark :: digits) magnitude
  | decimal {digits : List Char} {magnitude : Nat}
      (spelled : Numeral.Spells 10 digits magnitude) : Magnitude bareHex digits magnitude
  | bare {digits : List Char} {magnitude : Nat} (allowed : bareHex = true)
      (notDecimal : ∀ other, ¬Numeral.Spells 10 digits other)
      (spelled : Numeral.Spells 16 digits magnitude) : Magnitude bareHex digits magnitude

inductive Spells (bareHex : Bool) : List Char → Int → Prop
  | unsigned {body : List Char} {magnitude : Nat} (spelled : Magnitude bareHex body magnitude)
      (fits : magnitude ≤ 2 ^ (63 : Nat) - 1) : Spells bareHex body magnitude
  | plus {body : List Char} {magnitude : Nat} (spelled : Magnitude bareHex body magnitude)
      (fits : magnitude ≤ 2 ^ (63 : Nat) - 1) : Spells bareHex ('+' :: body) magnitude
  | minus {body : List Char} {magnitude : Nat} (spelled : Magnitude bareHex body magnitude)
      (fits : magnitude ≤ 2 ^ (63 : Nat) - 1) : Spells bareHex ('-' :: body) (-magnitude)

variable {bareHex : Bool} {body token : List Char} {magnitude : Nat} {number : Int}

/-! ### Magnitudes -/

theorem not_spells_of_mark {base : Nat} (atMost : base ≤ 16) {mark : Char}
    (isMark : mark = 'x' ∨ mark = 'X') (digits : List Char) (number : Nat) :
    ¬Numeral.Spells base ('0' :: mark :: digits) number := by
  intro spells
  have digit : Numeral.isDigit 16 mark = true :=
    spells.isDigit_sixteen_of_mem atMost (List.mem_cons_of_mem '0' List.mem_cons_self)
  rcases isMark with rfl | rfl
  · contradiction
  · contradiction

theorem magnitude_of_mark_iff {mark : Char} (isMark : mark = 'x' ∨ mark = 'X')
    {digits : List Char} :
    Magnitude bareHex ('0' :: mark :: digits) magnitude ↔ Numeral.Spells 16 digits magnitude := by
  constructor
  · intro spelled
    cases spelled with
    | marked _ spelled => exact spelled
    | decimal spelled => exact absurd spelled (not_spells_of_mark (by decide) isMark _ _)
    | bare _ _ spelled => exact absurd spelled (not_spells_of_mark (by decide) isMark _ _)
  · exact .marked isMark

theorem not_spells_of_digits {digits : List Char} (notAll : digits.all (Numeral.isDigit 10) = false)
    (number : Nat) : ¬Numeral.Spells 10 digits number := by
  intro spells
  have all : digits.all (Numeral.isDigit 10) = true :=
    List.all_eq_true.mpr fun _ member => spells.isDigit_of_mem (by decide) member
  rw [all] at notAll
  contradiction

/-- Decimal digits are read as such everywhere, so that what is left to a numeral without a mark is
what is not made of them. -/
theorem magnitude_of_unmarked_iff
    (unmarked : ∀ mark digits, body = '0' :: mark :: digits → ¬(mark = 'x' ∨ mark = 'X')) :
    Magnitude bareHex body magnitude ↔
      if bareHex && !body.all (Numeral.isDigit 10) then Numeral.Spells 16 body magnitude
      else Numeral.Spells 10 body magnitude := by
  split
  next hexadecimal =>
    rw [Bool.and_eq_true, Bool.not_eq_true'] at hexadecimal
    rcases hexadecimal with ⟨allowed, notAll⟩
    constructor
    · intro spelled
      cases spelled with
      | marked isMark _ => exact absurd isMark (unmarked _ _ rfl)
      | decimal spelled => exact absurd spelled (not_spells_of_digits notAll _)
      | bare _ _ spelled => exact spelled
    · exact .bare allowed (not_spells_of_digits notAll)
  next decimal =>
    constructor
    · intro spelled
      cases spelled with
      | marked isMark _ => exact absurd isMark (unmarked _ _ rfl)
      | decimal spelled => exact spelled
      | bare allowed notDecimal spelled =>
          -- Decimal digits alone would be a decimal numeral.
          have all : body.all (Numeral.isDigit 10) = true := by simpa [allowed] using decimal
          have nonempty : body ≠ [] := by
            rintro rfl
            have found := (Numeral.read?_eq_some_iff (Nat.le_refl 16)).mpr spelled
            contradiction
          exact absurd ((Numeral.read?_eq_some_iff (by decide)).mp
            (Numeral.read?_eq_some nonempty all)) (notDecimal _)
    · exact .decimal

theorem magnitude?_eq_some_iff :
    magnitude? bareHex body = some magnitude ↔ Magnitude bareHex body magnitude := by
  have reads (base : Nat) (atMost : base ≤ 16) (digits : List Char) :
      Numeral.read? base digits = some magnitude ↔ Numeral.Spells base digits magnitude :=
    Numeral.read?_eq_some_iff atMost
  unfold magnitude?
  split
  next digits => rw [reads 16 (by decide), magnitude_of_mark_iff (.inl rfl)]
  next digits => rw [reads 16 (by decide), magnitude_of_mark_iff (.inr rfl)]
  next notLower notUpper =>
    have unmarked (mark : Char) (digits : List Char) (whole : body = '0' :: mark :: digits) :
        ¬(mark = 'x' ∨ mark = 'X') := by
      rintro (rfl | rfl)
      · exact notLower digits whole
      · exact notUpper digits whole
    rw [magnitude_of_unmarked_iff unmarked]
    split
    · exact reads 16 (by decide) body
    · exact reads 10 (by decide) body

/-! ### Signs -/

theorem Magnitude.not_mem_sign {sign : Char} (spelled : Magnitude bareHex body magnitude)
    (isSign : sign = '+' ∨ sign = '-') : sign ∉ body := by
  have noDigit (base : Nat) (atMost : base ≤ 16) {digits : List Char} {number : Nat}
      (spells : Numeral.Spells base digits number) : sign ∉ digits := by
    intro member
    have digit : Numeral.isDigit 16 sign = true := spells.isDigit_sixteen_of_mem atMost member
    rcases isSign with rfl | rfl
    · contradiction
    · contradiction
  cases spelled with
  | marked isMark spelled =>
      have rest := noDigit 16 (by decide) spelled
      rcases isSign with rfl | rfl <;> rcases isMark with rfl | rfl <;> simpa using rest
  | decimal spelled => exact noDigit 10 (by decide) spelled
  | bare _ _ spelled => exact noDigit 16 (by decide) spelled

theorem Magnitude.splitSign_eq (spelled : Magnitude bareHex body magnitude) :
    splitSign body = (false, body) := by
  have noPlus := spelled.not_mem_sign (.inl rfl)
  have noMinus := spelled.not_mem_sign (.inr rfl)
  unfold splitSign
  split
  · exact absurd List.mem_cons_self noMinus
  · exact absurd List.mem_cons_self noPlus
  · rfl

theorem read?_eq_some_iff_magnitude :
    read? bareHex token = some number ↔
      ∃ magnitude, Magnitude bareHex (splitSign token).2 magnitude ∧
        magnitude ≤ 2 ^ (63 : Nat) - 1 ∧
          number = if (splitSign token).1 then -(magnitude : Int) else magnitude := by
  simp only [read?, Option.bind_eq_bind, Option.bind_eq_some_iff, Option.filter_eq_some_iff,
    Option.pure_def, Option.some.injEq, magnitude?_eq_some_iff, decide_eq_true_eq, and_assoc,
    eq_comm (a := number)]
  rfl

theorem read?_eq_some_iff : read? bareHex token = some number ↔ Spells bareHex token number := by
  rw [read?_eq_some_iff_magnitude]
  constructor
  · rintro ⟨magnitude, spelled, fits, rfl⟩
    unfold splitSign at spelled ⊢
    split at spelled
    · exact .minus spelled fits
    · exact .plus spelled fits
    · exact .unsigned spelled fits
  · intro spells
    cases spells with
    | unsigned spelled fits =>
        rw [spelled.splitSign_eq]
        exact ⟨_, spelled, fits, rfl⟩
    | plus spelled fits => exact ⟨_, spelled, fits, rfl⟩
    | minus spelled fits => exact ⟨_, spelled, fits, rfl⟩

/-! ### Tokens -/

theorem read_eq_ok_iff {token : String} :
    read bareHex token = .ok number ↔ Spells bareHex token.toList number := by
  rw [← read?_eq_some_iff, read]
  cases read? bareHex token.toList <;> simp

theorem Spells.of_not_bare (spells : Spells false token number) : Spells bareHex token number := by
  have kept {body : List Char} {magnitude : Nat} (spelled : Magnitude false body magnitude) :
      Magnitude bareHex body magnitude := by
    cases spelled with
    | marked isMark spelled => exact .marked isMark spelled
    | decimal spelled => exact .decimal spelled
    | bare allowed _ _ => contradiction
  cases spells with
  | unsigned spelled fits => exact .unsigned (kept spelled) fits
  | plus spelled fits => exact .plus (kept spelled) fits
  | minus spelled fits => exact .minus (kept spelled) fits

def hexadecimal : Int → List Char
  | .ofNat magnitude => '0' :: 'x' :: Numeral.digits 16 magnitude
  | .negSucc predecessor => '-' :: '0' :: 'x' :: Numeral.digits 16 (predecessor + 1)

example : hexadecimal (-31) = ['-', '0', 'x', '1', 'f'] := by decide

theorem spells_hexadecimal (fits : number.natAbs ≤ 2 ^ (63 : Nat) - 1) :
    Spells bareHex (hexadecimal number) number := by
  have spelled (magnitude : Nat) :
      Magnitude bareHex ('0' :: 'x' :: Numeral.digits 16 magnitude) magnitude :=
    .marked (.inl rfl) ((Numeral.read?_eq_some_iff (Nat.le_refl 16)).mp
      (Numeral.read?_digits (Nat.le_refl 16) (by decide) magnitude))
  cases number with
  | ofNat magnitude => exact .unsigned (spelled magnitude) fits
  | negSucc predecessor => exact .minus (spelled (predecessor + 1)) fits

/-- A token is read if and only if it is a literal of the language, and then as the number that it
spells there; any other token is reported itself. Tokens that are read where no numeral is
hexadecimal without a mark have the same number where some are. All numbers of 64 bits but the least
are read back from their decimal and from their marked hexadecimal form. -/
theorem read_follows_grammar (bareHex : Bool) :
    (∀ (token : String) (number : Int),
      read bareHex token = .ok number ↔ Spells bareHex token.toList number) ∧
    (∀ token : String, (¬∃ number, Spells bareHex token.toList number) →
      read bareHex token = .error (.malformedLiteral token)) ∧
    (∀ (token : String) (number : Int),
      read false token = .ok number → read true token = .ok number) ∧
    ∀ number : Int, -2 ^ (63 : Nat) < number → number < 2 ^ (63 : Nat) →
      read bareHex (Numeral.decimalText number) = .ok number ∧
        read bareHex (String.ofList (hexadecimal number)) = .ok number := by
  refine ⟨fun token number => read_eq_ok_iff, ?_, ?_, ?_⟩
  · intro token unspelled
    rw [read_eq_error_iff]
    exact ⟨fun number found => unspelled ⟨number, read_eq_ok_iff.mp found⟩, rfl⟩
  · intro token number found
    rw [read_eq_ok_iff] at found ⊢
    exact found.of_not_bare
  · intro number lower upper
    have fits : number.natAbs ≤ 2 ^ (63 : Nat) - 1 := by omega
    refine ⟨read_decimalText bareHex fits, ?_⟩
    rw [read_eq_ok_iff, String.toList_ofList]
    exact spells_hexadecimal fits

theorem read_follows_grammar_bounds :
    read true "-0X7fffFFFFffffFFFF" = .ok (-9223372036854775807) ∧
      read true (Numeral.decimalText (-9223372036854775807)) = .ok (-9223372036854775807) ∧
      read true "9223372036854775808" = .error (.malformedLiteral "9223372036854775808") := by
  refine ⟨?_, ?_, ?_⟩
  · exact (read_follows_grammar true).2.2.1 _ _ (by decide)
  · exact ((read_follows_grammar true).2.2.2 (-9223372036854775807) (by decide) (by decide)).1
  · refine (read_follows_grammar true).2.1 _ ?_
    rintro ⟨number, spells⟩
    have found := ((read_follows_grammar true).1 "9223372036854775808" number).mpr spells
    contradiction

end Literal

end TwinIsa
