import Mathlib.Data.List.Induction
import TwinIsa.CheckedExpansion
import TwinIsa.Proofs.TernaryExpansion

/-!
A number has one expansion in balanced ternary that does not begin with a zero. Everything here
follows `expansion_eq_append_lowest`: an expansion is that of a smaller number and one more trit, so
its value, its first trit and its length are found by `expansion_induction`, and a list of trits is
compared with an expansion from its last trit up.
-/

namespace TwinIsa

theorem Trit.negate_negate (trit : Trit) : trit.negate.negate = trit := by
  cases trit <;> rfl

namespace BalancedTernary

variable {number : Int}

def toInt (trits : List Trit) : Int :=
  trits.foldl (fun leading trit => leading * 3 + trit.value) 0

theorem toInt_append_lowest (leading : List Trit) (lowest : Trit) :
    toInt (leading ++ [lowest]) = toInt leading * 3 + lowest.value := by
  rw [toInt, List.foldl_append, ← toInt]
  rfl

/-! ## Expansions -/

theorem natAbs_rest_lt (nonzero : number ≠ 0) :
    ((number - (Trit.lowest number).value) / 3).natAbs < number.natAbs := by
  have whole := Trit.three_mul_add_lowest number
  have trit := Trit.value_bounds (Trit.lowest number)
  omega

theorem expansion_induction {motive : Int → Prop} (zero : motive 0)
    (append : ∀ number, number ≠ 0 → motive ((number - (Trit.lowest number).value) / 3) →
      motive number) (number : Int) : motive number := by
  induction magnitude : number.natAbs using Nat.strongRecOn generalizing number with
  | ind _ induction =>
      by_cases nonzero : number = 0
      · exact nonzero ▸ zero
      · exact append number nonzero
          (induction _ (magnitude ▸ natAbs_rest_lt nonzero) _ rfl)

theorem toInt_expansion (number : Int) : toInt (expansion number) = number := by
  induction number using expansion_induction with
  | zero => rw [expansion_zero]; rfl
  | append number nonzero induction =>
      have whole := Trit.three_mul_add_lowest number
      rw [expansion_eq_append_lowest nonzero, toInt_append_lowest, induction]
      omega

theorem expansion_eq_nil_iff : expansion number = [] ↔ number = 0 := by
  constructor
  · intro empty
    rw [← toInt_expansion number, empty]
    rfl
  · rintro rfl
    exact expansion_zero

theorem head?_expansion_ne_zero (number : Int) : (expansion number).head? ≠ some .zero := by
  induction number using expansion_induction with
  | zero => rw [expansion_zero]; nofun
  | append number nonzero induction =>
      rw [expansion_eq_append_lowest nonzero, List.head?_append]
      by_cases nothing : (number - (Trit.lowest number).value) / 3 = 0
      · -- A single trit is the number.
        intro zero
        rw [nothing, expansion_zero, List.head?_nil, Option.none_or, List.head?_singleton] at zero
        have whole := Trit.three_mul_add_lowest number
        rw [nothing, Option.some.inj zero] at whole
        exact nonzero whole.symm
      · rcases List.exists_cons_of_ne_nil (mt expansion_eq_nil_iff.mp nothing) with
          ⟨first, others, expanded⟩
        rw [expanded] at induction ⊢
        exact induction

/-- Trits that do not begin with a zero are the expansion of their number. -/
theorem eq_expansion_toInt {trits : List Trit} (noZero : trits.head? ≠ some .zero) :
    trits = expansion (toInt trits) := by
  induction trits using List.reverseRecOn with
  | nil => rw [toInt, List.foldl_nil, expansion_zero]
  | append_singleton leading last induction =>
      have noZeroInFront : leading.head? ≠ some .zero := by
        intro zero
        rw [List.head?_append, zero] at noZero
        exact noZero rfl
      have front := induction noZeroInFront
      have lowest : Trit.lowest (toInt (leading ++ [last])) = last := by
        rw [toInt_append_lowest, Trit.lowest_three_mul_add]
      have rest : (toInt (leading ++ [last]) - last.value) / 3 = toInt leading := by
        rw [toInt_append_lowest]
        omega
      have nonzero : toInt (leading ++ [last]) ≠ 0 := by
        intro zero
        rw [zero] at lowest rest
        subst lowest
        have nothing : toInt leading = 0 := rest.symm
        rw [front, nothing, expansion_zero] at noZero
        exact noZero rfl
      rw [expansion_eq_append_lowest nonzero, lowest, rest, ← front]

theorem length_expansion_le_iff {count : Nat} :
    (expansion number).length ≤ count ↔
      -maxMagnitude count ≤ number ∧ number ≤ maxMagnitude count := by
  induction count generalizing number with
  | zero =>
      rw [Nat.le_zero, List.length_eq_zero_iff, expansion_eq_nil_iff, maxMagnitude_zero]
      omega
  | succ count induction =>
      rw [maxMagnitude_succ]
      rcases Decidable.em (number = 0) with rfl | nonzero
      · have inRange : -maxMagnitude count ≤ 0 ∧ 0 ≤ maxMagnitude count := by
          rw [← induction, expansion_zero]
          exact Nat.zero_le count
        rw [expansion_zero]
        simp only [List.length_nil, Nat.zero_le, true_iff]
        omega
      · have whole := Trit.three_mul_add_lowest number
        have trit := Trit.value_bounds (Trit.lowest number)
        rw [expansion_eq_append_lowest nonzero, List.length_append, List.length_singleton,
          Nat.add_le_add_iff_right, induction]
        omega

theorem expansion_neg (number : Int) :
    expansion (-number) = (expansion number).map Trit.negate := by
  rcases Int.eq_nat_or_neg number with ⟨magnitude, rfl | rfl⟩
  · rw [expansion_neg_natCast, expansion_natCast]
  · have twice : Trit.negate ∘ Trit.negate = id := funext Trit.negate_negate
    rw [Int.neg_neg, expansion_neg_natCast, expansion_natCast, List.map_map, twice, List.map_id]

/-! ## The loop -/

/-- No step leaves the integers: the greatest of them leaves no remainder, and the next leaves one
that has room to carry. -/
theorem takeTrit?_eq {magnitude : Nat} (fits : magnitude < DoubleWord.count) :
    takeTrit? magnitude = some (Trit.ofRemainder (magnitude % 3), (magnitude + 1) / 3) := by
  have remainders : magnitude % 3 = 0 ∨ magnitude % 3 = 1 ∨ magnitude % 3 = 2 := by omega
  unfold takeTrit?
  rcases remainders with remainder | remainder | remainder
  · have rest : (magnitude + 1) / 3 = magnitude / 3 := by omega
    rw [remainder, rest]
    rfl
  · have rest : (magnitude + 1) / 3 = magnitude / 3 := by omega
    rw [remainder, rest]
    rfl
  · have room : magnitude + 1 < DoubleWord.count := by
      rw [DoubleWord.count] at fits ⊢
      omega
    rw [remainder]
    simp only [DoubleWord.add?, DoubleWord.ofNat?, if_pos room]
    rfl

theorem collectTrits_eq {magnitude : Nat} (fits : magnitude < DoubleWord.count)
    (isNegative : Bool) (trits : Array Trit) :
    collectTrits isNegative magnitude trits =
      some (trits.toList ++ (magnitudeTrits magnitude).map
        fun trit => if isNegative then trit.negate else trit).toArray := by
  induction magnitude using Nat.strongRecOn generalizing trits with
  | ind magnitude induction =>
      rw [collectTrits]
      by_cases positive : 0 < magnitude
      · have smaller : (magnitude + 1) / 3 < magnitude :=
          takeTrit?_lt positive (takeTrit?_eq fits)
        rw [if_pos positive, takeTrit?_eq fits, magnitudeTrits_of_pos positive, Trit.lowest_natCast,
          List.map_cons]
        dsimp only
        rw [induction _ smaller (Nat.lt_trans smaller fits), Array.toList_push, List.append_assoc,
          List.singleton_append]
      · have nothing : magnitude = 0 := by omega
        rw [if_neg positive, nothing, magnitudeTrits, if_pos rfl, List.map_nil, List.append_nil]

theorem expansionChecked_eq (lower : -2 ^ (63 : Nat) ≤ number) (upper : number < 2 ^ (63 : Nat)) :
    expansionChecked number = some (expansion number) := by
  have fits : number.natAbs < DoubleWord.count := by
    rw [DoubleWord.count]
    omega
  have collected := collectTrits_eq fits (number < 0) #[]
  rw [List.nil_append] at collected
  rw [expansionChecked, DoubleWord.magnitude?, DoubleWord.ofNat?, if_pos fits]
  simp only [Option.bind_eq_bind, Option.bind_some, collected, expansion]
  by_cases negative : number < 0
  · simp [negative]
  · simp [negative]

/-- For every number of 64 bits the loop comes to its end without leaving its integers. The trits
are the only ones that stand for the number and do not begin with a zero. There are as many as it
takes for the number to be in range, and the trits of the opposite number, which all but the least
have, are their opposites. -/
theorem expansionChecked_canonical (number : Int) (lower : -2 ^ (63 : Nat) ≤ number)
    (upper : number < 2 ^ (63 : Nat)) :
    ∃ trits, expansionChecked number = some trits ∧ trits = expansion number ∧
      toInt trits = number ∧ trits.head? ≠ some .zero ∧ (trits = [] ↔ number = 0) ∧
      (∀ others, toInt others = number → others.head? ≠ some .zero → others = trits) ∧
      (∀ count, trits.length ≤ count ↔ (number.natAbs : Int) ≤ (3 ^ count - 1) / 2) ∧
      (number ≠ -2 ^ (63 : Nat) → expansionChecked (-number) = some (trits.map Trit.negate)) := by
  refine ⟨expansion number, expansionChecked_eq lower upper, rfl, toInt_expansion number,
    head?_expansion_ne_zero number, expansion_eq_nil_iff, ?_, ?_, ?_⟩
  · intro others same noZero
    rw [eq_expansion_toInt noZero, same]
  · intro count
    rw [length_expansion_le_iff, ← maxMagnitude]
    omega
  · intro notLeast
    rw [expansionChecked_eq (by omega) (by omega), expansion_neg]

/-- Five takes three trits, and so does its opposite; the least number takes all 41 that any number
of 64 bits takes. -/
theorem expansionChecked_canonical_least :
    (-2 ^ (63 : Nat) ≤ (5 : Int) ∧ (5 : Int) < 2 ^ (63 : Nat) ∧ (5 : Int) ≠ -2 ^ (63 : Nat) ∧
      expansionChecked 5 = some [.positive, .negative, .negative] ∧
      expansionChecked (-5) = some [.negative, .positive, .positive]) ∧
    -2 ^ (63 : Nat) ≤ (-2 ^ (63 : Nat) : Int) ∧ (-2 ^ (63 : Nat) : Int) < 2 ^ (63 : Nat) ∧
      ∃ trits, expansionChecked (-2 ^ (63 : Nat)) = some trits ∧ toInt trits = -2 ^ (63 : Nat) ∧
        trits.length = 41 := by
  refine ⟨⟨by decide, by decide, by decide, ?_⟩, by decide, by decide, ?_⟩
  · rcases expansionChecked_canonical 5 (by decide) (by decide) with
      ⟨trits, expanded, _, _, _, _, only, _, opposite⟩
    have same : [.positive, .negative, .negative] = trits := only _ (by decide) (by decide)
    subst same
    exact ⟨expanded, opposite (by decide)⟩
  · rcases expansionChecked_canonical (-2 ^ (63 : Nat)) (by decide) (by decide) with
      ⟨trits, expanded, _, value, _, _, _, length, _⟩
    have enough : trits.length ≤ 41 := (length 41).mpr (by decide)
    have needed : ¬trits.length ≤ 40 := mt (length 40).mp (by decide)
    exact ⟨trits, expanded, value, by omega⟩

end BalancedTernary

end TwinIsa
