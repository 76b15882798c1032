import TwinIsa.Proofs.BalancedTernary
import TwinIsa.Proofs.Text.Numeral

/-!
The two ways of packing a number agree. Packing takes trits off the signed number, expansion takes
them off its magnitude, but the expansion too is the lowest trit of the number behind the expansion
of what is left. So both follow the same recursion, and a numeral of two binary digits to a trit is
read back as the packed trits.
-/

namespace TwinIsa

namespace Trit

theorem lowest_natCast (magnitude : Nat) :
    lowest (magnitude : Int) = ofRemainder (magnitude % 3) := by
  have remainder : ((magnitude : Int) % 3).toNat = magnitude % 3 := by omega
  rw [lowest, remainder]

theorem lowest_neg (number : Int) : lowest (-number) = (lowest number).negate := by
  have agrees : number % 3 = (lowest number).value % 3 := lowest_eq_iff.mp rfl
  apply lowest_eq_iff.mpr
  rw [value_negate]
  omega

end Trit

namespace BalancedTernary

/-! ## Expansions -/

theorem magnitudeTrits_of_pos {magnitude : Nat} (positive : 0 < magnitude) :
    magnitudeTrits magnitude =
      Trit.lowest magnitude :: magnitudeTrits ((magnitude + 1) / 3) := by
  rw [magnitudeTrits, if_neg (Nat.ne_of_gt positive), Trit.lowest_natCast]

theorem expansion_zero : expansion 0 = [] := by
  simp [expansion, magnitudeTrits]

theorem expansion_natCast (magnitude : Nat) :
    expansion magnitude = (magnitudeTrits magnitude).reverse := by
  have notNegative : ¬(magnitude : Int) < 0 := by omega
  simp only [expansion, if_neg notNegative, Int.natAbs_natCast]

theorem expansion_neg_natCast (magnitude : Nat) :
    expansion (-magnitude) = (magnitudeTrits magnitude).reverse.map Trit.negate := by
  rcases Nat.eq_zero_or_pos magnitude with rfl | positive
  · simp [expansion, magnitudeTrits]
  · have negative : -(magnitude : Int) < 0 := by omega
    simp only [expansion, if_pos negative, Int.natAbs_neg, Int.natAbs_natCast]

/-- An expansion ends in the lowest trit; what stands before it is the expansion of the rest. -/
theorem expansion_eq_append_lowest {number : Int} (nonzero : number ≠ 0) :
    expansion number =
      expansion ((number - (Trit.lowest number).value) / 3) ++ [Trit.lowest number] := by
  have shorter (magnitude : Nat) :
      ((magnitude : Int) - (Trit.lowest magnitude).value) / 3 = ((magnitude + 1) / 3 : Nat) := by
    have whole := Trit.three_mul_add_lowest magnitude
    have trit := Trit.value_bounds (Trit.lowest magnitude)
    omega
  rcases Int.eq_nat_or_neg number with ⟨magnitude, rfl | rfl⟩
  · rw [shorter, expansion_natCast, expansion_natCast, magnitudeTrits_of_pos (by omega),
      List.reverse_cons]
  · have opposite : (-(magnitude : Int) - (Trit.lowest magnitude).negate.value) / 3 =
        -(((magnitude + 1) / 3 : Nat) : Int) := by
      have whole := Trit.three_mul_add_lowest magnitude
      have left := shorter magnitude
      rw [Trit.value_negate]
      omega
    rw [Trit.lowest_neg, opposite, expansion_neg_natCast, expansion_neg_natCast,
      magnitudeTrits_of_pos (by omega), List.reverse_cons, List.map_append, List.map_singleton]

/-! ## Expansions as numerals -/

theorem valueFrom_codeDigits (leading : Nat) (trit : Trit) :
    Numeral.valueFrom 2 leading (codeDigits trit) = trit.code + 4 * leading := by
  have digits (high low : Nat) :
      (leading * 2 + high) * 2 + low = 2 * high + low + 4 * leading := by omega
  cases trit with
  | negative => exact digits 1 1
  | zero => exact digits 0 0
  | positive => exact digits 0 1

theorem codeDigits_ne_nil (trit : Trit) : codeDigits trit ≠ [] := by
  cases trit <;> decide

theorem isDigit_of_mem_codeDigits {trits : List Trit} :
    ∀ character ∈ trits.flatMap codeDigits, Numeral.isDigit 2 character = true := by
  have binary (trit : Trit) : (codeDigits trit).all (Numeral.isDigit 2) = true := by
    cases trit <;> rfl
  intro character member
  rcases List.mem_flatMap.mp member with ⟨trit, _, inDigits⟩
  exact List.all_eq_true.mp (binary trit) character inDigits

theorem value_expansion {count : Nat} {number : Int} (lower : -maxMagnitude count ≤ number)
    (upper : number ≤ maxMagnitude count) :
    Numeral.value 2 ((expansion number).flatMap codeDigits) = pack count number := by
  induction count generalizing number with
  | zero =>
      rw [maxMagnitude_zero] at lower upper
      have zero : number = 0 := by omega
      rw [zero, expansion_zero]
      rfl
  | succ count induction =>
      rw [maxMagnitude_succ] at lower upper
      have whole := Trit.three_mul_add_lowest number
      have trit := Trit.value_bounds (Trit.lowest number)
      have rest : Numeral.value 2 ((expansion ((number - (Trit.lowest number).value) / 3)).flatMap
          codeDigits) = pack count ((number - (Trit.lowest number).value) / 3) :=
        induction (by omega) (by omega)
      rcases Decidable.em (number = 0) with rfl | nonzero
      · have left : ((0 : Int) - (Trit.lowest 0).value) / 3 = 0 := rfl
        rw [left] at rest
        rw [pack, left, ← rest, expansion_zero]
        rfl
      · rw [expansion_eq_append_lowest nonzero, List.flatMap_append, List.flatMap_singleton,
          Numeral.value, Numeral.valueFrom_append, ← Numeral.value, rest, valueFrom_codeDigits,
          pack]

theorem read?_expansion {count : Nat} {number : Int} (few : count ≤ 15)
    (lower : -maxMagnitude count ≤ number) (upper : number ≤ maxMagnitude count)
    (nonempty : expansion number ≠ []) :
    (Numeral.read? 2 ((expansion number).flatMap codeDigits)).filter (· < Word.count) =
      some (pack count number) := by
  have written : (expansion number).flatMap codeDigits ≠ [] := by
    rcases List.exists_cons_of_ne_nil nonempty with ⟨first, others, expanded⟩
    rw [expanded, List.flatMap_cons]
    exact List.append_ne_nil_of_left_ne_nil (codeDigits_ne_nil first) _
  have small : pack count number < Word.count := by
    apply Nat.lt_of_lt_of_le (pack_lt count number)
    exact Nat.pow_le_pow_right (by decide) (by omega)
  rw [Numeral.read?_eq_some written (List.all_eq_true.mpr isDigit_of_mem_codeDigits),
    value_expansion lower upper]
  simp [small]

theorem encodeByExpansion_of_mem_range {count : Nat} {number : Int} (few : count ≤ 15)
    (lower : -maxMagnitude count ≤ number) (upper : number ≤ maxMagnitude count) :
    encodeByExpansion count number = .ok (UInt32.ofNat (pack count number)) := by
  rw [encodeByExpansion, checkRange_of_mem_range lower upper]
  dsimp only [bind, Except.bind]
  split
  next empty =>
    have zero := value_expansion lower upper
    rw [empty] at zero
    rw [← zero]
    rfl
  next nonempty =>
    rw [read?_expansion few lower upper nonempty]
    dsimp only
    rw [pack_and_fieldMask]
    rfl

/-- The two ways of packing have the same result, be it an error or a field. Where it is a field,
no mask takes a bit from it, and the numeral of the expansion, unless it is empty, is read back. -/
theorem encodeByExpansion_eq_encode (count : Nat) (few : count ≤ 15) (number : Int) :
    encodeByExpansion count number = encode count number ∧
    (number < -((3 ^ count - 1) / 2) ∨ (3 ^ count - 1) / 2 < number →
      encode count number =
        .error (.immediateOutOfRange number (-((3 ^ count - 1) / 2)) ((3 ^ count - 1) / 2))) ∧
    (-((3 ^ count - 1) / 2) ≤ number ∧ number ≤ (3 ^ count - 1) / 2 →
      ∃ packed : Word, encode count number = .ok packed ∧ packed.toNat < 4 ^ count ∧
        packed.toNat = pack count number ∧
        pack count number &&& fieldMask count = pack count number ∧
        (expansion number ≠ [] →
          ∃ value, (Numeral.read? 2 ((expansion number).flatMap codeDigits)).filter
              (· < Word.count) = some value ∧
            value &&& fieldMask count = value ∧ value = packed.toNat)) := by
  rw [← maxMagnitude]
  refine ⟨?_, ?_, ?_⟩
  · rcases Decidable.em (-maxMagnitude count ≤ number ∧ number ≤ maxMagnitude count) with
      ⟨lower, upper⟩ | outside
    · rw [encodeByExpansion_of_mem_range few lower upper, encode_of_mem_range lower upper]
    · have above : number < -maxMagnitude count ∨ maxMagnitude count < number := by omega
      rw [encodeByExpansion, encode, checkRange_of_outside above]
      rfl
  · intro outside
    rw [encode, checkRange_of_outside outside]
    rfl
  · intro within
    rcases within with ⟨lower, upper⟩
    have small : pack count number < 4 ^ count := by
      rw [show 4 = 2 ^ 2 from rfl, ← Nat.pow_mul]
      exact pack_lt count number
    have fits : pack count number < UInt32.size := by
      have bound : 4 ^ count ≤ 4 ^ 15 := Nat.pow_le_pow_right (by decide) few
      have size : 4 ^ 15 < UInt32.size := by decide
      omega
    have whole : (UInt32.ofNat (pack count number)).toNat = pack count number :=
      UInt32.toNat_ofNat_of_lt' fits
    refine ⟨_, encode_of_mem_range lower upper, by rwa [whole], whole,
      pack_and_fieldMask count number, ?_⟩
    intro nonempty
    exact ⟨_, read?_expansion few lower upper nonempty, pack_and_fieldMask count number,
      whole.symm⟩

theorem encodeByExpansion_eq_encode_least :
    15 ≤ 15 ∧ encodeByExpansion 15 (-7174453) = encode 15 (-7174453) ∧
      encode 15 (-7174453) = .ok 0x3FFFFFFF ∧
      encode 15 (-7174454) = .error (.immediateOutOfRange (-7174454) (-7174453) 7174453) := by
  refine ⟨Nat.le_refl 15, ?_, rfl, ?_⟩
  · exact (encodeByExpansion_eq_encode 15 (Nat.le_refl 15) (-7174453)).1
  · exact (encodeByExpansion_eq_encode 15 (Nat.le_refl 15) (-7174454)).2.1 (by decide)

end BalancedTernary

end TwinIsa
