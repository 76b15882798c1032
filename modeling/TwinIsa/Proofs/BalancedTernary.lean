import TwinIsa.BalancedTernary

/-!
Packing and unpacking of trits are inverse: the numbers of `count` trits are those between
`-maxMagnitude count` and `maxMagnitude count`, and the fields are those without the code that is
no trit. Both directions are inductions on the number of trits, in step with `pack` and `unpack?`.
-/

namespace TwinIsa

namespace Trit

theorem code_lt (trit : Trit) : trit.code < 4 := by
  cases trit <;> decide

theorem ofCode?_eq_some {bits : Nat} {trit : Trit} (found : ofCode? bits = some trit) :
    trit.code = bits % 4 := by
  unfold ofCode? at found
  split at found
  all_goals simp_all [code]
  all_goals subst found; rfl

theorem isSome_ofCode?_iff {bits : Nat} : (ofCode? bits).isSome = true ↔ bits % 4 ≠ 0b10 := by
  have codes : bits % 4 = 0 ∨ bits % 4 = 1 ∨ bits % 4 = 2 ∨ bits % 4 = 3 := by omega
  rcases codes with code | code | code | code <;> simp [ofCode?, code]

theorem ofCode?_code_add (trit : Trit) (rest : Nat) :
    ofCode? (trit.code + 4 * rest) = some trit := by
  have remainder : (trit.code + 4 * rest) % 4 = trit.code % 4 := by omega
  rw [ofCode?, remainder, ← ofCode?, ofCode?_code]

theorem lowest_eq_iff {number : Int} {trit : Trit} :
    lowest number = trit ↔ number % 3 = trit.value % 3 := by
  have remainders : number % 3 = 0 ∨ number % 3 = 1 ∨ number % 3 = 2 := by omega
  rcases remainders with remainder | remainder | remainder <;> cases trit <;>
    simp [lowest, remainder, ofRemainder, value]

theorem three_mul_add_lowest (number : Int) :
    3 * ((number - (lowest number).value) / 3) + (lowest number).value = number := by
  have agrees : number % 3 = (lowest number).value % 3 := lowest_eq_iff.mp rfl
  omega

theorem lowest_three_mul_add (rest : Int) (trit : Trit) :
    lowest (rest * 3 + trit.value) = trit :=
  lowest_eq_iff.mpr (by omega)

theorem value_bounds (trit : Trit) : -1 ≤ trit.value ∧ trit.value ≤ 1 := by
  cases trit <;> decide

end Trit

namespace BalancedTernary

theorem maxMagnitude_zero : maxMagnitude 0 = 0 := rfl

theorem maxMagnitude_succ (count : Nat) :
    maxMagnitude (count + 1) = 3 * maxMagnitude count + 1 := by
  have odd : (3 : Int) ^ count % 2 = 1 := by
    induction count with
    | zero => rfl
    | succ count induction => rw [Int.pow_succ]; omega
  simp only [maxMagnitude, Int.pow_succ]
  omega

theorem pack_lt (count : Nat) (number : Int) : pack count number < 2 ^ (2 * count) := by
  induction count generalizing number with
  | zero => simp [pack]
  | succ count induction =>
      have code := Trit.code_lt (Trit.lowest number)
      have rest := induction ((number - (Trit.lowest number).value) / 3)
      rw [pack, Nat.mul_succ, Nat.pow_add]
      omega

theorem pack_and_fieldMask (count : Nat) (number : Int) :
    pack count number &&& fieldMask count = pack count number :=
  Nat.and_two_pow_sub_one_of_lt_two_pow (pack_lt count number)

theorem checkRange_of_mem_range {count : Nat} {number : Int}
    (lower : -maxMagnitude count ≤ number) (upper : number ≤ maxMagnitude count) :
    checkRange count number = .ok () := by
  apply if_neg
  omega

theorem checkRange_of_outside {count : Nat} {number : Int}
    (outside : number < -maxMagnitude count ∨ maxMagnitude count < number) :
    checkRange count number =
      .error (.immediateOutOfRange number (-maxMagnitude count) (maxMagnitude count)) :=
  if_pos outside

theorem encode_of_mem_range {count : Nat} {number : Int} (lower : -maxMagnitude count ≤ number)
    (upper : number ≤ maxMagnitude count) :
    encode count number = .ok (UInt32.ofNat (pack count number)) := by
  rw [encode, checkRange_of_mem_range lower upper, pack_and_fieldMask]
  rfl

theorem isSome_unpack?_iff {count field : Nat} :
    (unpack? count field).isSome = true ↔
      ∀ position < count, field / 4 ^ position % 4 ≠ 0b10 := by
  induction count generalizing field with
  | zero => simp [unpack?]
  | succ count induction =>
      have split : (unpack? (count + 1) field).isSome = true ↔
          (Trit.ofCode? field).isSome = true ∧ (unpack? count (field / 4)).isSome = true := by
        rw [unpack?]
        cases unpack? count (field / 4) <;> cases Trit.ofCode? field <;> simp
      have shifted (position : Nat) : field / 4 ^ (position + 1) = field / 4 / 4 ^ position := by
        rw [Nat.div_div_eq_div_mul, Nat.pow_succ, Nat.mul_comm]
      rw [split, Trit.isSome_ofCode?_iff, induction, Nat.forall_lt_succ_left]
      simp only [shifted, Nat.pow_zero, Nat.div_one]

theorem unpack?_pack {count : Nat} {number : Int} (lower : -maxMagnitude count ≤ number)
    (upper : number ≤ maxMagnitude count) : unpack? count (pack count number) = some number := by
  induction count generalizing number with
  | zero =>
      rw [maxMagnitude_zero] at lower upper
      have zero : number = 0 := by omega
      rw [zero, pack, unpack?]
  | succ count induction =>
      rw [maxMagnitude_succ] at lower upper
      have whole := Trit.three_mul_add_lowest number
      have trit := Trit.value_bounds (Trit.lowest number)
      have code := Trit.code_lt (Trit.lowest number)
      have rest : unpack? count (pack count ((number - (Trit.lowest number).value) / 3)) =
          some ((number - (Trit.lowest number).value) / 3) :=
        induction (by omega) (by omega)
      have shifted (packed : Nat) :
          ((Trit.lowest number).code + 4 * packed) / 4 = packed := by omega
      rw [pack, unpack?, shifted, rest, Trit.ofCode?_code_add]
      simp only [Option.bind_eq_bind, Option.bind_some, Option.pure_def, Option.some.injEq]
      omega

theorem pack_of_unpack? {count field : Nat} {number : Int}
    (unpacked : unpack? count field = some number) :
    pack count number = field % 2 ^ (2 * count) ∧ -maxMagnitude count ≤ number ∧
      number ≤ maxMagnitude count := by
  induction count generalizing field number with
  | zero =>
      have zero : 0 = number := Option.some.inj unpacked
      subst zero
      simp [pack, maxMagnitude_zero, Nat.mod_one]
  | succ count induction =>
      simp only [unpack?, Option.bind_eq_bind, Option.bind_eq_some_iff, Option.pure_def,
        Option.some.injEq] at unpacked
      rcases unpacked with ⟨leading, foundLeading, trit, foundTrit, rfl⟩
      rcases induction foundLeading with ⟨packed, lower, upper⟩
      have bounds := trit.value_bounds
      have rest : (leading * 3 + trit.value - trit.value) / 3 = leading := by omega
      refine ⟨?_, ?_, ?_⟩
      · rw [pack, Trit.lowest_three_mul_add, rest, packed, Trit.ofCode?_eq_some foundTrit,
          Nat.mul_succ, Nat.add_comm (2 * count), Nat.pow_add, Nat.mod_mul]
      · rw [maxMagnitude_succ]
        omega
      · rw [maxMagnitude_succ]
        omega

end BalancedTernary

end TwinIsa
