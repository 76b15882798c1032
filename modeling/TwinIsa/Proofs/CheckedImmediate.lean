import Mathlib.Tactic.LinearCombination
import Mathlib.Tactic.Linarith
import Mathlib.Tactic.Ring
import TwinIsa.CheckedImmediate
import TwinIsa.Proofs.BitFields
import TwinIsa.Proofs.Immediate

/-!
Immediate fields on integers of a fixed size. As long as a kind of field fits a word, no step of
encoding or decoding leaves its integers, and the results are the exact ones; each kind is then a
bijection between its range and its legal fields.
-/

namespace TwinIsa

/-! ## Single operations -/

namespace Long

theorem ofInt?_of_bounds {number : Int} (lower : -2 ^ 63 ≤ number) (upper : number < 2 ^ 63) :
    ofInt? number = some number :=
  if_pos ⟨lower, upper⟩

theorem shiftLeft?_one {amount : Nat} (room : amount ≤ 62) :
    shiftLeft? 1 amount = some (2 ^ amount) := by
  have small : (2 : Int) ^ amount ≤ 2 ^ 62 := two_pow_le_two_pow room
  have positive : (0 : Int) < 2 ^ amount := Int.pow_pos (by decide)
  have exact : Int.bmod (1 * 2 ^ amount) (2 ^ 64) = 2 ^ amount := by
    rw [Int.one_mul]
    apply Int.bmod_eq_of_le_mul_two <;> omega
  rw [shiftLeft?, if_pos (by omega), exact]

theorem remainder?_of_pos {number divisor : Int} (positive : 0 < divisor)
    (lower : -2 ^ 63 ≤ number) (upper : number < 2 ^ 63) :
    remainder? number divisor = some (number % divisor) := by
  have bound : (number.tdiv divisor).natAbs ≤ number.natAbs := by
    rw [Int.natAbs_tdiv]
    exact Nat.div_le_self _ _
  -- The quotient has the sign of the number, so the least number stays the least.
  have sameSign : number < 0 → number.tdiv divisor ≤ 0 := by
    intro negative
    have opposite : 0 ≤ (-number).tdiv divisor := Int.tdiv_nonneg (by omega) (by omega)
    rw [Int.neg_tdiv] at opposite
    omega
  rw [remainder?, divide?, if_neg (by omega), ofInt?_of_bounds (by omega) (by omega)]
  rfl

end Long

namespace Word

theorem ofNat?_of_lt {number : Nat} (small : number < 2 ^ 32) : ofNat? number = some number :=
  if_pos small

theorem mask_of_shiftLeft? {width : Nat} (room : width ≤ 31) :
    (do let bit ← shiftLeft? 1 width; subtract? bit 1) = some (mask width) := by
  have small : 2 ^ width ≤ 2 ^ 31 := Nat.pow_le_pow_right (by decide) room
  have positive := Nat.two_pow_pos width
  have exact : 1 <<< width % count = 2 ^ width := by
    rw [Nat.one_shiftLeft]
    exact Nat.mod_eq_of_lt (Nat.lt_of_le_of_lt small (by decide))
  rw [shiftLeft?, if_pos (by omega), exact]
  exact if_pos positive

end Word

/-! ## Two's complement -/

theorem twosComplementChecked_eq {width : Nat} {number : Int} (room : width ≤ 32)
    (lower : -2 ^ 63 ≤ number) (upper : number < 2 ^ 63) :
    twosComplementChecked width number = some (twosComplement width number) := by
  have positive : (0 : Int) < 2 ^ width := Int.pow_pos (by decide)
  have fits : (number % 2 ^ width).toNat < 2 ^ 32 :=
    Nat.lt_of_lt_of_le (toNat_emod_lt width number) (Nat.pow_le_pow_right (by decide) room)
  rw [twosComplementChecked, Long.shiftLeft?_one (by omega)]
  simp only [Option.bind_eq_bind, Option.bind_some, Long.remainder?_of_pos positive lower upper,
    Word.ofNat?_of_lt fits]
  rfl

theorem bmod_mul_two_pow {width : Nat} (signed : 1 ≤ width) (amount : Nat) (number : Int) :
    Int.bmod (number * 2 ^ amount) (2 ^ (width + amount)) =
      Int.bmod number (2 ^ width) * 2 ^ amount := by
  have positive : (0 : Int) < 2 ^ amount := Int.pow_pos (by decide)
  have twice := two_pow_eq_twice signed
  have power : ((2 ^ width : Nat) : Int) = 2 ^ width := natCast_two_pow width
  have whole : ((2 ^ (width + amount) : Nat) : Int) = 2 ^ width * 2 ^ amount := by
    rw [Int.natCast_pow, Int.pow_add]
    rfl
  have lower : -(((2 ^ width : Nat) : Int) / 2) ≤ Int.bmod number (2 ^ width) :=
    Int.le_bmod (Nat.two_pow_pos width)
  have upper : Int.bmod number (2 ^ width) < (((2 ^ width : Nat) : Int) + 1) / 2 :=
    Int.bmod_lt (Nat.two_pow_pos width)
  have cut : number * 2 ^ amount = Int.bmod number (2 ^ width) * 2 ^ amount +
      ((2 ^ (width + amount) : Nat) : Int) * Int.bdiv number (2 ^ width) := by
    have parts := Int.bdiv_add_bmod number (2 ^ width)
    rw [power] at parts
    rw [whole]
    linear_combination -(2 : Int) ^ amount * parts
  rw [cut, Int.add_mul_bmod_self_left]
  have least : -(2 : Int) ^ (width - 1) ≤ Int.bmod number (2 ^ width) := by omega
  have greatest : Int.bmod number (2 ^ width) + 1 ≤ 2 ^ (width - 1) := by omega
  apply Int.bmod_eq_of_le_mul_two
  · rw [whole, twice]
    nlinarith
  · rw [whole, twice]
    nlinarith

theorem signExtendChecked_eq {width : Nat} (signed : 1 ≤ width) (room : width ≤ 64) (field : Nat) :
    signExtendChecked width field = some (signExtend width field) := by
  rcases Nat.exists_eq_add_of_le room with ⟨amount, split⟩
  have positive : (0 : Int) < 2 ^ amount := Int.pow_pos (by decide)
  have raised : Int.bmod (field * 2 ^ amount) (2 ^ 64) = signExtend width field * 2 ^ amount := by
    rw [split, bmod_mul_two_pow signed, signExtend]
  have lowered : signExtend width field * 2 ^ amount / 2 ^ amount = signExtend width field :=
    Int.mul_ediv_cancel _ (by omega)
  have remaining : 64 - width = amount := by omega
  have less : amount < 64 := by omega
  rw [signExtendChecked, Word.subtract?, if_pos room, remaining]
  simp only [Option.bind_eq_bind, Option.bind_some, Long.shiftLeft?, if_pos less, raised,
    Long.shiftRight?, lowered]

/-! ## Trits -/

namespace BalancedTernary

variable {count position : Nat} {number : Int}

theorem maxMagnitude_nonneg (count : Nat) : 0 ≤ maxMagnitude count := by
  have positive : (0 : Int) < 3 ^ count := Int.pow_pos (by decide)
  rw [maxMagnitude]
  omega

theorem three_pow_le (few : count ≤ 15) : (3 : Int) ^ count ≤ 3 ^ 15 := by
  exact_mod_cast Nat.pow_le_pow_right (by decide) few

theorem maxMagnitude_le (few : count ≤ 15) : maxMagnitude count ≤ 7174453 := by
  have room := three_pow_le few
  rw [maxMagnitude]
  omega

theorem rangeChecked_eq (few : count ≤ 15) :
    rangeChecked count = some (-maxMagnitude count, maxMagnitude count) := by
  have positive : (0 : Int) < 3 ^ count := Int.pow_pos (by decide)
  have room := three_pow_le few
  have nonnegative := maxMagnitude_nonneg count
  have bound := maxMagnitude_le few
  have half : ((3 : Int) ^ count - 1).tdiv 2 = maxMagnitude count :=
    Int.tdiv_eq_ediv_of_nonneg (by omega)
  have greatest : maxMagnitudeChecked count = some (maxMagnitude count) := by
    rw [maxMagnitudeChecked, Long.power?, Long.ofInt?_of_bounds (by omega) (by omega)]
    simp only [Option.bind_eq_bind, Option.bind_some, Long.subtract?, Long.divide?,
      Long.ofInt?_of_bounds (show -2 ^ 63 ≤ (3 : Int) ^ count - 1 by omega) (by omega), half]
    rw [if_neg (by decide), Long.ofInt?_of_bounds (by omega) (by omega)]
  rw [rangeChecked, greatest]
  simp only [Option.bind_eq_bind, Option.bind_some, Long.negate?,
    Long.ofInt?_of_bounds (show -2 ^ 63 ≤ -maxMagnitude count by omega) (by omega)]
  rfl

theorem fieldMaskChecked_eq (few : count ≤ 15) :
    fieldMaskChecked count = some (fieldMask count) := by
  rw [fieldMaskChecked, Word.multiply?, Word.ofNat?_of_lt (by omega)]
  simp only [Option.bind_eq_bind, Option.bind_some]
  rw [← Option.bind_eq_bind, Word.mask_of_shiftLeft? (by omega), fieldMask, Nat.mul_comm]

theorem or_shiftLeft_code {packed : Nat} (small : packed < 4 ^ position) (few : position < 15)
    (trit : Trit) :
    packed ||| trit.code <<< (2 * position) % Word.count = packed + 4 ^ position * trit.code := by
  have base : 4 ^ position = 2 ^ (2 * position) := by rw [Nat.pow_mul]
  have code : trit.code < 2 ^ 2 := trit.code_lt
  have word : trit.code <<< (2 * position) < Word.count := Word.shiftLeft_lt code (by omega)
  rw [base] at small ⊢
  rw [Nat.mod_eq_of_lt word, Nat.shiftLeft_eq, Nat.mul_comm, Nat.or_comm,
    ← Nat.two_pow_add_eq_or_of_lt small, Nat.add_comm]

/-- The loop packs what packing is defined to be, above what is packed already, and leaves
nothing. -/
theorem packFrom_eq {packed : Nat} (few : position + count ≤ 15) (small : packed < 4 ^ position)
    (lower : -maxMagnitude count ≤ number) (upper : number ≤ maxMagnitude count) :
    packFrom position count number packed = some (0, packed + 4 ^ position * pack count number) := by
  induction count generalizing position number packed with
  | zero =>
      rw [maxMagnitude_zero] at lower upper
      have zero : number = 0 := by omega
      rw [zero, packFrom, pack, Nat.mul_zero, Nat.add_zero]
  | succ count induction =>
      have bound := maxMagnitude_le (show count ≤ 15 by omega)
      rw [maxMagnitude_succ] at lower upper
      have whole := Trit.three_mul_add_lowest number
      have trit := Trit.value_bounds (Trit.lowest number)
      have code := Trit.code_lt (Trit.lowest number)
      have exact : (number - (Trit.lowest number).value).tdiv 3 =
          (number - (Trit.lowest number).value) / 3 :=
        Int.tdiv_eq_ediv_of_dvd ⟨_, (by omega :
          number - (Trit.lowest number).value = 3 * ((number - (Trit.lowest number).value) / 3))⟩
      have grown : packed + 4 ^ position * (Trit.lowest number).code < 4 ^ (position + 1) := by
        rw [Nat.pow_succ]
        nlinarith
      have next : packFrom (position + 1) count ((number - (Trit.lowest number).value) / 3)
          (packed + 4 ^ position * (Trit.lowest number).code) = some (0, _) :=
        induction (by omega) grown (by omega) (by omega)
      rw [packFrom]
      simp only [Option.bind_eq_bind, Option.bind_some, Long.subtract?, Long.divide?,
        Word.multiply?, Word.shiftLeft?,
        Long.ofInt?_of_bounds (show -2 ^ 63 ≤ number - (Trit.lowest number).value by omega)
          (by omega), exact,
        Word.ofNat?_of_lt (show 2 * position < 2 ^ 32 by omega)]
      rw [if_neg (by decide), Long.ofInt?_of_bounds (by omega) (by omega), if_pos (by omega)]
      simp only [Option.bind_some]
      rw [or_shiftLeft_code small (by omega), next, pack]
      congr 2
      ring

theorem encodeChecked_eq (few : count ≤ 15) (number : Int) :
    encodeChecked count number = some (encode count number) := by
  rw [encodeChecked, rangeChecked_eq few]
  simp only [Option.bind_eq_bind, Option.bind_some]
  split
  next outside =>
    rw [encode, checkRange_of_outside outside]
    rfl
  next within =>
    have packed : packFrom 0 count number 0 = some (0, 0 + 4 ^ 0 * pack count number) :=
      packFrom_eq (by omega) (by decide) (by omega) (by omega)
    rw [packed, encode_of_mem_range (by omega) (by omega), fieldMaskChecked_eq few]
    simp only [Option.bind_some, guard, if_true, Option.pure_def, Nat.pow_zero, Nat.one_mul,
      Nat.zero_add, pack_and_fieldMask]

/-- Unpacking from the lower end, with the highest trit set apart. -/
theorem unpack?_succ_eq (position field : Nat) :
    unpack? (position + 1) field =
      (Trit.ofCode? (field / 4 ^ position)).bind fun trit =>
        (unpack? position field).map fun lower => trit.value * 3 ^ position + lower := by
  induction position generalizing field with
  | zero => simp [unpack?]
  | succ position induction =>
      have shifted : field / 4 ^ (position + 1) = field / 4 / 4 ^ position := by
        rw [Nat.div_div_eq_div_mul, Nat.pow_succ, Nat.mul_comm]
      rw [unpack?, induction, shifted, unpack?]
      cases Trit.ofCode? (field / 4 / 4 ^ position) with
      | none => rfl
      | some highest =>
          cases unpack? position (field / 4) with
          | none => rfl
          | some middle =>
              cases Trit.ofCode? field with
              | none => rfl
              | some lowest =>
                  simp only [Option.bind_eq_bind, Option.bind_some, Option.map_some,
                    Option.pure_def, Option.some.injEq]
                  ring

theorem unpackFrom_eq {above field : Nat} {value : Int} (few : position + above ≤ 15)
    (lower : -maxMagnitude above ≤ value) (upper : value ≤ maxMagnitude above) :
    unpackFrom field position value =
      some ((unpack? position field).map fun lower => value * 3 ^ position + lower) := by
  induction position generalizing above value with
  | zero => simp [unpackFrom, unpack?]
  | succ position induction =>
      have bound := maxMagnitude_le (show above ≤ 15 by omega)
      have bits : field >>> (2 * position) = field / 4 ^ position := by
        rw [Nat.shiftRight_eq_div_pow, Nat.pow_mul]
      rw [unpackFrom, unpack?_succ_eq]
      simp only [Word.multiply?, Word.shiftRight?,
        Word.ofNat?_of_lt (show 2 * position < 2 ^ 32 by omega), Option.bind_eq_bind,
        Option.bind_some, if_pos (show 2 * position < 32 by omega), bits]
      cases Trit.ofCode? (field / 4 ^ position) with
      | none => rfl
      | some trit =>
          have digit := trit.value_bounds
          have succ := maxMagnitude_succ above
          have next : unpackFrom field position (value * 3 + trit.value) = some _ :=
            induction (show position + (above + 1) ≤ 15 by omega) (by omega) (by omega)
          simp only [Long.multiply?, Long.add?,
            Long.ofInt?_of_bounds (show -2 ^ 63 ≤ value * 3 by omega) (by omega),
            Long.ofInt?_of_bounds (show -2 ^ 63 ≤ value * 3 + trit.value by omega) (by omega),
            Option.bind_some, next]
          cases unpack? position field with
          | none => rfl
          | some rest =>
              simp only [Option.map_some, Option.some.injEq]
              ring

end BalancedTernary

/-! ## Fields of every kind -/

namespace ImmediateKind

variable {kind : ImmediateKind} {number : Int}

theorem maskChecked_eq (fits : kind.Fits) : kind.maskChecked = some kind.mask := by
  have width : kind.widthChecked = some kind.width := by
    cases kind with
    | unsigned bits => rfl
    | signed bits => rfl
    | trits count =>
        have few : count ≤ 15 := fits
        rw [widthChecked, Word.multiply?, Word.ofNat?_of_lt (by omega), Nat.mul_comm]
        rfl
  rw [maskChecked, width]
  exact Word.mask_of_shiftLeft? fits.width_le

theorem rangeChecked_eq (fits : kind.Fits) :
    kind.rangeChecked = some (kind.least, kind.greatest) := by
  -- Both binary ranges end one below a power that 32 bits hold.
  have below {bits : Nat} (few : bits ≤ 31) :
      (0 : Int) < 2 ^ bits ∧ (2 : Int) ^ bits ≤ 2 ^ 31 :=
    ⟨Int.pow_pos (by decide), two_pow_le_two_pow few⟩
  cases kind with
  | unsigned bits =>
      have few : bits ≤ 31 := fits
      have bounds := below few
      rw [rangeChecked, Long.shiftLeft?_one (by omega)]
      simp only [Option.bind_eq_bind, Option.bind_some, Long.subtract?,
        Long.ofInt?_of_bounds (show -2 ^ 63 ≤ (2 : Int) ^ bits - 1 by omega) (by omega)]
      rfl
  | signed bits =>
      have few : bits ≤ 31 := fits.2
      have bounds := below (show bits - 1 ≤ 31 by omega)
      rw [rangeChecked, Word.subtract?, if_pos fits.1]
      simp only [Option.bind_eq_bind, Option.bind_some,
        Long.shiftLeft?_one (show bits - 1 ≤ 62 by omega), Long.negate?, Long.subtract?,
        Long.ofInt?_of_bounds (show -2 ^ 63 ≤ -(2 : Int) ^ (bits - 1) by omega) (by omega),
        Long.ofInt?_of_bounds (show -2 ^ 63 ≤ (2 : Int) ^ (bits - 1) - 1 by omega) (by omega)]
      rfl
  | trits count => exact BalancedTernary.rangeChecked_eq fits

/-- No step of encoding leaves its integers, and the result is the exact one. -/
theorem encodeChecked_eq (fits : kind.Fits) (number : Int) :
    kind.encodeChecked number = some (kind.encode number) := by
  rw [encodeChecked.eq_def, rangeChecked_eq fits]
  simp only [Option.bind_eq_bind, Option.bind_some, encode]
  split
  · rfl
  next within =>
    have magnitude : number.natAbs ≤ 2 ^ 31 :=
      natAbs_le_of_mem_range fits (by omega) (by omega)
    cases kind with
    | unsigned bits =>
        dsimp only
        rw [Word.ofNat?_of_lt (by omega)]
        rfl
    | signed bits =>
        dsimp only
        rw [twosComplementChecked_eq (Nat.le_succ_of_le fits.2) (by omega) (by omega)]
        rfl
    | trits count => exact BalancedTernary.encodeChecked_eq fits number

theorem decodeChecked_eq (fits : kind.Fits) (bits : Word) :
    kind.decodeChecked bits = some (kind.decode bits) := by
  rw [decodeChecked, maskChecked_eq fits]
  simp only [Option.bind_eq_bind, Option.bind_some, decode, mask, Word.and_mask]
  cases kind with
  | unsigned width => rfl
  | signed width =>
      dsimp only
      rw [signExtendChecked_eq fits.1 (Nat.le_trans fits.2 (by decide))]
      rfl
  | trits count =>
      dsimp only
      have unpacked : BalancedTernary.unpackFrom (bits.toNat % 2 ^ (2 * count)) count 0 = some _ :=
        BalancedTernary.unpackFrom_eq (show count + 0 ≤ 15 from fits) (by decide) (by decide)
      rw [width, unpacked]
      simp

/-! ## The bijection -/

theorem le_mask_of_lt {field : Word} (small : field.toNat < 2 ^ kind.width) :
    field.toNat ≤ kind.mask :=
  Nat.le_sub_one_of_lt small

theorem and_mask_eq (fits : kind.Fits) (bits : Word) :
    bits &&& UInt32.ofNat kind.mask = UInt32.ofNat (bits.toNat % 2 ^ kind.width) := by
  have small : kind.mask < UInt32.size := by
    have room : 2 ^ kind.width ≤ 2 ^ 31 := Nat.pow_le_pow_right (by decide) fits.width_le
    exact Nat.lt_of_le_of_lt (Nat.sub_le _ 1) (Nat.lt_of_le_of_lt room (by decide))
  have reduced : bits.toNat % 2 ^ kind.width < UInt32.size :=
    Nat.lt_of_le_of_lt (Nat.mod_le _ _) bits.toNat_lt
  apply UInt32.toNat.inj
  rw [UInt32.toNat_and, UInt32.toNat_ofNat_of_lt' small, UInt32.toNat_ofNat_of_lt' reduced, mask,
    Word.and_mask]

theorem mod_div_mod_of_lt {count position : Nat} (inside : position < count) (bits : Nat) :
    bits % 2 ^ (2 * count) / 4 ^ position % 4 = bits / 4 ^ position % 4 := by
  rcases Nat.exists_eq_add_of_lt inside with ⟨above, rfl⟩
  have split : 2 ^ (2 * (position + above + 1)) = 4 ^ position * (4 * 4 ^ above) := by
    rw [Nat.pow_mul, Nat.add_assoc, Nat.pow_add, Nat.pow_succ 4 above, Nat.mul_comm 4]
  rw [split, Nat.mod_mul_right_div_self, Nat.mod_mul_right_mod]

theorem decode_eq_none_iff {bits : Word} :
    kind.decode bits = none ↔
      ∃ count, kind = trits count ∧ ∃ position < count, bits.toNat / 4 ^ position % 4 = 0b10 := by
  cases kind with
  | unsigned width => simp [decode]
  | signed width => simp [decode]
  | trits count =>
      have unpacked : (BalancedTernary.unpack? count (bits.toNat % 2 ^ (2 * count))).isSome = true ↔
          ∀ position < count, bits.toNat / 4 ^ position % 4 ≠ 0b10 := by
        rw [BalancedTernary.isSome_unpack?_iff]
        refine forall₂_congr fun position inside => ?_
        rw [mod_div_mod_of_lt inside]
      have decoded : (trits count).decode bits =
          BalancedTernary.unpack? count (bits.toNat % 2 ^ (2 * count)) := rfl
      rw [decoded, ← Option.not_isSome_iff_eq_none, unpacked]
      simp

/-- Each kind of field that fits a word is a bijection between its range and its legal fields: the
numbers of the range encode and no others do, a field that was encoded lies under the mask and
decodes to its number, a field that decodes holds a number of the range whose encoding is the field
without the bits above the mask, and all that does not decode are trits with an unused pair of bits.
None of this leaves the integers of 64 and of 32 bits that it is computed on. -/
theorem bijection_of_fits (kind : ImmediateKind) (fits : kind.Fits) :
    (∀ number : Int,
      ((∃ field, kind.encode number = .ok field) ↔
        kind.least ≤ number ∧ number ≤ kind.greatest) ∧
      (¬(kind.least ≤ number ∧ number ≤ kind.greatest) →
        kind.encode number = .error (.immediateOutOfRange number kind.least kind.greatest)) ∧
      ∀ field, kind.encode number = .ok field →
        field.toNat ≤ kind.mask ∧ kind.decode field = some number) ∧
    (∀ bits : Word,
      (∀ number, kind.decode bits = some number →
        (kind.least ≤ number ∧ number ≤ kind.greatest) ∧
          kind.encode number = .ok (bits &&& UInt32.ofNat kind.mask)) ∧
      (kind.decode bits = none ↔
        ∃ count, kind = trits count ∧
          ∃ position < count, bits.toNat / 4 ^ position % 4 = 0b10)) ∧
    kind.maskChecked = some kind.mask ∧ kind.rangeChecked = some (kind.least, kind.greatest) ∧
    (∀ number, kind.encodeChecked number = some (kind.encode number)) ∧
    ∀ bits, kind.decodeChecked bits = some (kind.decode bits) := by
  refine ⟨fun number => ⟨?_, ?_, ?_⟩, fun bits => ⟨?_, decode_eq_none_iff⟩, maskChecked_eq fits,
    rangeChecked_eq fits, encodeChecked_eq fits, decodeChecked_eq fits⟩
  · exact exists_encode_iff
  · intro outside
    exact encode_of_outside (by omega)
  · intro field encoded
    rcases decode_of_encode fits encoded with ⟨small, decoded⟩
    exact ⟨le_mask_of_lt small, decoded⟩
  · intro number decoded
    have encoded := encode_of_decode fits decoded
    rw [← and_mask_eq fits] at encoded
    exact ⟨range_of_encode encoded, encoded⟩

theorem bijection_of_fits_signed :
    (signed 31).Fits ∧ (signed 31).encode (-1073741824) = .ok 0x40000000 ∧
      (signed 31).decode 0xC0000000 = some (-1073741824) ∧
      (signed 31).encodeChecked (-1073741824) = some (.ok 0x40000000) := by
  have fits : (signed 31).Fits := by decide
  have decoded : (signed 31).decode 0xC0000000 = some (-1073741824) := by decide
  have encoded := (((bijection_of_fits (signed 31) fits).2.1 0xC0000000).1 _ decoded).2
  refine ⟨fits, encoded, decoded, ?_⟩
  rw [(bijection_of_fits (signed 31) fits).2.2.2.2.1, encoded]
  rfl

end ImmediateKind

end TwinIsa
