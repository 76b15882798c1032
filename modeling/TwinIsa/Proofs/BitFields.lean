import TwinIsa.Isa

/-!
Bit fields as numbers. A word is put together with shifts and `|||` from fields that do not
overlap; here each field is read back, and a word with no bits outside its fields is put together
again. `Layout.Ordered` says what the fields of a layout need for that.
-/

namespace TwinIsa

namespace Word

theorem and_mask (bits width : Nat) : bits &&& mask width = bits % 2 ^ width := by
  rw [mask, Nat.and_two_pow_sub_one_eq_mod]

theorem and_mask_shiftLeft (bits width shift : Nat) :
    bits &&& mask width <<< shift = ((bits >>> shift) % 2 ^ width) <<< shift := by
  apply Nat.eq_of_testBit_eq
  intro index
  simp only [mask, Nat.testBit_and, Nat.testBit_shiftLeft, Nat.testBit_two_pow_sub_one,
    Nat.testBit_mod_two_pow, Nat.testBit_shiftRight]
  by_cases inside : shift ≤ index
  · have position : shift + (index - shift) = index := by omega
    simp [inside, position, Bool.and_comm]
  · simp [inside]

theorem shiftLeft_shiftRight_or_mod (bits shift : Nat) :
    (bits >>> shift) <<< shift ||| bits % 2 ^ shift = bits := by
  rw [Nat.shiftLeft_eq, Nat.mul_comm,
    ← Nat.two_pow_add_eq_or_of_lt (Nat.mod_lt bits (Nat.two_pow_pos shift)),
    Nat.shiftRight_eq_div_pow, Nat.div_add_mod]

/-- What lies above a boundary does not show in what lies below. -/
theorem shiftLeft_or_mod {shift width : Nat} (above below : Nat) (le : width ≤ shift) :
    (above <<< shift ||| below) % 2 ^ width = below % 2 ^ width := by
  have clear : above <<< shift % 2 ^ width = 0 := by
    rw [Nat.shiftLeft_eq]
    exact Nat.mod_eq_zero_of_dvd (Nat.dvd_mul_left_of_dvd (Nat.pow_dvd_pow 2 le) above)
  rw [Nat.or_mod_two_pow, clear, Nat.zero_or]

theorem shiftLeft_or_shiftRight {shift below : Nat} (above : Nat) (low : below < 2 ^ shift) :
    (above <<< shift ||| below) >>> shift = above := by
  rw [Nat.shiftRight_or_distrib, Nat.shiftLeft_shiftRight, Nat.shiftRight_eq_zero below shift low,
    Nat.or_zero]

theorem shiftLeft_lt {field width shift top : Nat} (fits : field < 2 ^ width)
    (le : shift + width ≤ top) : field <<< shift < 2 ^ top := by
  rw [Nat.shiftLeft_eq]
  calc
    field * 2 ^ shift < 2 ^ width * 2 ^ shift :=
      Nat.mul_lt_mul_of_pos_right fits (Nat.two_pow_pos shift)
    _ = 2 ^ (shift + width) := by rw [Nat.mul_comm, Nat.pow_add]
    _ ≤ 2 ^ top := Nat.pow_le_pow_right (by decide) le

theorem or_and_or_eq {left right leftMask rightMask : Nat} (leftWithin : left &&& leftMask = left)
    (rightWithin : right &&& rightMask = right) :
    (left ||| right) &&& (leftMask ||| rightMask) = left ||| right := by
  apply Nat.eq_of_testBit_eq
  intro index
  have leftBit := congrArg (·.testBit index) leftWithin
  have rightBit := congrArg (·.testBit index) rightWithin
  simp only [Nat.testBit_and, Nat.testBit_or] at leftBit rightBit ⊢
  rw [Bool.and_or_distrib_right, Bool.and_or_distrib_left, Bool.and_or_distrib_left, leftBit,
    rightBit]
  cases left.testBit index <;> cases right.testBit index <;> simp

theorem shiftLeft_and_mask_shiftLeft {field width : Nat} (shift : Nat) (fits : field < 2 ^ width) :
    field <<< shift &&& mask width <<< shift = field <<< shift := by
  rw [and_mask_shiftLeft, Nat.shiftLeft_shiftRight, Nat.mod_eq_of_lt fits]

end Word

/-- The fields of a layout lie one above another, and the word has room for them all. -/
structure Layout.Ordered (layout : Layout) : Prop where
  second_below_first : layout.secondShift + layout.registerBits ≤ layout.firstShift
  first_below_opcode : layout.firstShift + layout.registerBits ≤ layout.opcodeShift
  opcode_on_top : layout.opcodeShift + layout.opcodeBits = layout.wordBits
  word_fits : layout.wordBits ≤ 32
  registers_fit : layout.greatestRegister < 2 ^ layout.registerBits

theorem Isa.layout_ordered (isa : Isa) : isa.layout.Ordered := by
  cases isa <;> constructor <;> decide

namespace Layout

variable {layout : Layout}

theorem register?_eq_some_iff {shift bits register : Nat} :
    layout.register? shift bits = some register ↔
      (bits >>> shift) % 2 ^ layout.registerBits = register ∧
        register ≤ layout.greatestRegister := by
  simp only [register?]
  split
  · simp only [Option.some.injEq]
    constructor
    · rintro rfl
      exact ⟨rfl, by assumption⟩
    · exact fun holds => holds.1
  · simp only [reduceCtorEq, false_iff]
    rintro ⟨rfl, le⟩
    contradiction

theorem and_placeFirst (layout : Layout) (bits : Nat) :
    bits &&& layout.placeFirst layout.registerMask =
      layout.placeFirst ((bits >>> layout.firstShift) % 2 ^ layout.registerBits) :=
  Word.and_mask_shiftLeft bits layout.registerBits layout.firstShift

theorem and_placeSecond (layout : Layout) (bits : Nat) :
    bits &&& layout.placeSecond layout.registerMask =
      layout.placeSecond ((bits >>> layout.secondShift) % 2 ^ layout.registerBits) :=
  Word.and_mask_shiftLeft bits layout.registerBits layout.secondShift

variable (ordered : layout.Ordered)
include ordered

theorem Ordered.register_lt {register : Nat} (le : register ≤ layout.greatestRegister) :
    register < 2 ^ layout.registerBits :=
  Nat.lt_of_le_of_lt le ordered.registers_fit

theorem Ordered.placeFirst_lt {register : Nat} (le : register ≤ layout.greatestRegister) :
    layout.placeFirst register < 2 ^ layout.opcodeShift :=
  Word.shiftLeft_lt (ordered.register_lt le) ordered.first_below_opcode

theorem Ordered.placeSecond_lt {register : Nat} (le : register ≤ layout.greatestRegister) :
    layout.placeSecond register < 2 ^ layout.firstShift :=
  Word.shiftLeft_lt (ordered.register_lt le) ordered.second_below_first

theorem Ordered.lt_opcode {below : Nat} (low : below < 2 ^ layout.firstShift) :
    below < 2 ^ layout.opcodeShift := by
  have between := ordered.first_below_opcode
  exact Nat.lt_of_lt_of_le low (Nat.pow_le_pow_right (by decide) (by omega))

theorem Ordered.lt_first {below : Nat} (low : below < 2 ^ layout.secondShift) :
    below < 2 ^ layout.firstShift := by
  have between := ordered.second_below_first
  exact Nat.lt_of_lt_of_le low (Nat.pow_le_pow_right (by decide) (by omega))

theorem Ordered.register?_placeFirst {register below : Nat}
    (le : register ≤ layout.greatestRegister) (low : below < 2 ^ layout.firstShift) :
    layout.register? layout.firstShift (layout.placeFirst register ||| below) = some register := by
  refine register?_eq_some_iff.mpr ⟨?_, le⟩
  rw [placeFirst, Word.shiftLeft_or_shiftRight register low,
    Nat.mod_eq_of_lt (ordered.register_lt le)]

theorem Ordered.register?_placeSecond (first : Nat) {second below : Nat}
    (le : second ≤ layout.greatestRegister) (low : below < 2 ^ layout.secondShift) :
    layout.register? layout.secondShift
      (layout.placeFirst first ||| (layout.placeSecond second ||| below)) = some second := by
  have between := ordered.second_below_first
  have raised : layout.placeFirst first =
      first <<< (layout.firstShift - layout.secondShift) <<< layout.secondShift := by
    rw [← Nat.shiftLeft_add, placeFirst]
    congr 1
    omega
  refine register?_eq_some_iff.mpr ⟨?_, le⟩
  rw [raised, Nat.shiftRight_or_distrib, Nat.shiftLeft_shiftRight, placeSecond,
    Word.shiftLeft_or_shiftRight second low, Word.shiftLeft_or_mod _ _ (by omega),
    Nat.mod_eq_of_lt (ordered.register_lt le)]

end Layout

end TwinIsa
