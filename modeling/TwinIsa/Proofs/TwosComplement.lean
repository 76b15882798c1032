import Mathlib.Data.Int.ModEq
import TwinIsa.Proofs.CheckedImmediate

/-!
Two's complement as arithmetic modulo a power of two. Extending the sign of a field and taking the
field of a number both choose a representative of a residue class, the one around zero and the one
from zero on. Each is described by an equivalence that says which number it is; where they undo each
other is read off from the residues.
-/

namespace TwinIsa

/-! ## Shifts of bit vectors -/

namespace Long

variable (bits : BitVec 64) {amount : Nat}

theorem shiftLeft?_toInt (less : amount < 64) :
    shiftLeft? bits.toInt amount = some (bits <<< amount).toInt := by
  have power : ((2 ^ amount : Nat) : Int) = 2 ^ amount := natCast_two_pow amount
  rw [shiftLeft?, if_pos less, BitVec.toInt_shiftLeft, Nat.shiftLeft_eq, Int.natCast_mul, power,
    BitVec.toInt_eq_toNat_bmod, Int.bmod_mul_bmod]

theorem shiftRight?_toInt (less : amount < 64) :
    shiftRight? bits.toInt amount = some (bits.sshiftRight amount).toInt := by
  have power : ((2 ^ amount : Nat) : Int) = 2 ^ amount := natCast_two_pow amount
  rw [shiftRight?, if_pos less, BitVec.toInt_sshiftRight, Int.shiftRight_eq_div_pow, power]

end Long

/-- The sign is extended by moving the field to the end of 64 bits and back with copies of its
highest bit. -/
theorem signExtendChecked_eq_toInt {width : Nat} (signed : 1 ≤ width) (room : width ≤ 64)
    (field : Word) :
    signExtendChecked width field.toNat =
      some ((BitVec.ofNat 64 field.toNat <<< (64 - width)).sshiftRight (64 - width)).toInt := by
  have less : 64 - width < 64 := by omega
  have whole : (BitVec.ofNat 64 field.toNat).toInt = field.toNat := by
    have small := field.toNat_lt
    rw [BitVec.toInt_ofNat']
    apply Int.bmod_eq_of_le_mul_two <;> omega
  rw [signExtendChecked, Word.subtract?, if_pos room]
  simp only [Option.bind_eq_bind, Option.bind_some, ← whole, Long.shiftLeft?_toInt _ less,
    Long.shiftRight?_toInt _ less]

/-! ## Residues -/

section

variable {width field : Nat} {number : Int}

theorem modEq_signExtend (width field : Nat) : signExtend width field ≡ field [ZMOD 2 ^ width] := by
  have power : ((2 ^ width : Nat) : Int) = 2 ^ width := natCast_two_pow width
  rw [Int.ModEq, signExtend, ← power, Int.bmod_emod]

theorem signExtend_congr {other : Nat} (same : (field : Int) ≡ other [ZMOD 2 ^ width]) :
    signExtend width field = signExtend width other := by
  have power : ((2 ^ width : Nat) : Int) = 2 ^ width := natCast_two_pow width
  rw [Int.ModEq, ← power] at same
  rw [signExtend, signExtend, ← Int.emod_bmod, same, Int.emod_bmod]

theorem eq_signExtend_iff (signed : 1 ≤ width) :
    number = signExtend width field ↔
      (-2 ^ (width - 1) ≤ number ∧ number < 2 ^ (width - 1)) ∧
        number ≡ field [ZMOD 2 ^ width] := by
  constructor
  · rintro rfl
    have bounds := signExtend_bounds signed field
    exact ⟨⟨bounds.1, by omega⟩, modEq_signExtend width field⟩
  · intro holds
    rcases holds with ⟨⟨lower, upper⟩, same⟩
    have positive : (0 : Int) < 2 ^ width := Int.pow_pos (by decide)
    have reduced : ((number % 2 ^ width).toNat : Int) = number % 2 ^ width :=
      Int.toNat_of_nonneg (Int.emod_nonneg number (by omega))
    have congruent : ((number % 2 ^ width).toNat : Int) ≡ field [ZMOD 2 ^ width] := by
      rw [reduced]
      exact (Int.mod_modEq number (2 ^ width)).trans same
    rw [← signExtend_congr congruent, signExtend_emod signed lower (by omega)]

theorem toNat_twosComplement (room : width ≤ 32) (number : Int) :
    ((twosComplement width number).toNat : Int) = number % 2 ^ width := by
  have positive : (0 : Int) < 2 ^ width := Int.pow_pos (by decide)
  have notNegative := Int.emod_nonneg number (Int.ne_of_gt positive)
  have fits : (number % 2 ^ width).toNat < UInt32.size :=
    Nat.lt_of_lt_of_le (toNat_emod_lt width number) (Nat.pow_le_pow_right (by decide) room)
  rw [twosComplement, UInt32.toNat_ofNat_of_lt' fits, Int.toNat_of_nonneg notNegative]

theorem eq_toNat_twosComplement_iff {residue : Int} (room : width ≤ 32) :
    residue = (twosComplement width number).toNat ↔
      (0 ≤ residue ∧ residue < 2 ^ width) ∧ residue ≡ number [ZMOD 2 ^ width] := by
  have positive : (0 : Int) < 2 ^ width := Int.pow_pos (by decide)
  rw [toNat_twosComplement room]
  constructor
  · rintro rfl
    exact ⟨⟨Int.emod_nonneg number (by omega), Int.emod_lt_of_pos number positive⟩,
      Int.mod_modEq number (2 ^ width)⟩
  · intro holds
    rcases holds with ⟨⟨lower, upper⟩, same⟩
    rw [← same.eq, Int.emod_eq_of_lt lower upper]

theorem signExtend_twosComplement_iff (signed : 1 ≤ width) (room : width ≤ 32) :
    signExtend width (twosComplement width number).toNat = number ↔
      -2 ^ (width - 1) ≤ number ∧ number < 2 ^ (width - 1) := by
  have congruent : ((twosComplement width number).toNat : Int) ≡ number [ZMOD 2 ^ width] :=
    ((eq_toNat_twosComplement_iff room).mp rfl).2
  rw [eq_comm, eq_signExtend_iff signed, and_iff_left congruent.symm]

theorem twosComplement_signExtend (width field : Nat) :
    twosComplement width (signExtend width field) = UInt32.ofNat (field % 2 ^ width) := by
  rw [twosComplement, signExtend_toNat_emod]

end

/-! ## Every width -/

/-- A field of up to 64 bits extends to the one number around zero in its residue class, whatever
bits stand above it, and the field of a number in up to 32 bits is the one from zero on in the
number's residue class. No step leaves its integers. So a number is read back from its field if and
only if it is in range, and a field from the number that it holds. -/
theorem twosComplement_exact (width : Nat) (signed : 1 ≤ width) :
    (width ≤ 64 → ∀ field : Word, ∃ number : Int,
      signExtendChecked width field.toNat = some number ∧
      number = signExtend width field.toNat ∧
      number = ((BitVec.ofNat 64 field.toNat <<< (64 - width)).sshiftRight (64 - width)).toInt ∧
      (∀ other : Int, other = number ↔
        (-2 ^ (width - 1) ≤ other ∧ other < 2 ^ (width - 1)) ∧
          other ≡ field.toNat [ZMOD 2 ^ width]) ∧
      ∀ other : Word, other.toNat % 2 ^ width = field.toNat % 2 ^ width →
        signExtendChecked width other.toNat = some number) ∧
    (width ≤ 32 →
      (∀ number : Int, -2 ^ 63 ≤ number → number < 2 ^ 63 → ∃ field : Word,
        twosComplementChecked width number = some field ∧ field = twosComplement width number ∧
        (∀ other : Int, other = field.toNat ↔
          (0 ≤ other ∧ other < 2 ^ width) ∧ other ≡ number [ZMOD 2 ^ width]) ∧
        (signExtendChecked width field.toNat = some number ↔
          -2 ^ (width - 1) ≤ number ∧ number < 2 ^ (width - 1))) ∧
      ∀ field : Word, ∃ number : Int, signExtendChecked width field.toNat = some number ∧
        twosComplementChecked width number = some (UInt32.ofNat (field.toNat % 2 ^ width))) := by
  constructor
  · intro room field
    have extended := signExtendChecked_eq signed room field.toNat
    have shifted := signExtendChecked_eq_toInt signed room field
    refine ⟨_, extended, rfl, Option.some.inj (extended.symm.trans shifted),
      fun other => eq_signExtend_iff signed, ?_⟩
    intro other same
    have congruent : (other.toNat : Int) ≡ field.toNat [ZMOD 2 ^ width] := by
      exact_mod_cast same
    rw [signExtendChecked_eq signed room, signExtend_congr congruent]
  · intro room
    have wide : width ≤ 64 := Nat.le_trans room (by decide)
    constructor
    · intro number lower upper
      refine ⟨_, twosComplementChecked_eq room lower upper, rfl,
        fun other => eq_toNat_twosComplement_iff room, ?_⟩
      rw [signExtendChecked_eq signed wide, Option.some.injEq,
        signExtend_twosComplement_iff signed room]
    · intro field
      have bounds := signExtend_bounds signed field.toNat
      have half : (2 : Int) ^ (width - 1) ≤ 2 ^ 63 := two_pow_le_two_pow (by omega)
      refine ⟨_, signExtendChecked_eq signed wide field.toNat, ?_⟩
      rw [twosComplementChecked_eq room (by omega) (by omega), twosComplement_signExtend]

/-- The least number of 32 bits has the sign alone for its field. In 40 bits the same field has no
sign, and in 8 bits a sign above the field does not count. -/
theorem twosComplement_exact_sign :
    (1 ≤ 32 ∧ 32 ≤ 32 ∧ -2 ^ 63 ≤ (-2147483648 : Int) ∧ (-2147483648 : Int) < 2 ^ 63 ∧
      twosComplementChecked 32 (-2147483648) = some 0x80000000 ∧
      signExtendChecked 32 0x80000000 = some (-2147483648)) ∧
    (1 ≤ 40 ∧ 40 ≤ 64 ∧ signExtendChecked 40 0x80000000 = some 2147483648) ∧
    (1 ≤ 8 ∧ 8 ≤ 64 ∧ 0x8000007F % 2 ^ 8 = 0x7F % 2 ^ 8 ∧
      signExtendChecked 8 0x8000007F = some 127) := by
  refine ⟨⟨by decide, by decide, by decide, by decide, ?_⟩, ⟨by decide, by decide, ?_⟩,
    by decide, by decide, by decide, ?_⟩
  · rcases ((twosComplement_exact 32 (by decide)).2 (by decide)).1 (-2147483648) (by decide)
      (by decide) with ⟨field, computed, _, only, back⟩
    have extended := back.mpr (by decide)
    have value : (0x80000000 : Int) = field.toNat := (only 0x80000000).mpr (by decide)
    have whole : field.toNat = 0x80000000 := by exact_mod_cast value.symm
    have sign : field = 0x80000000 := UInt32.toNat_inj.mp whole
    rw [whole] at extended
    rw [sign] at computed
    exact ⟨computed, extended⟩
  · rcases (twosComplement_exact 40 (by decide)).1 (by decide) 0x80000000 with
      ⟨number, extended, _, _, only, _⟩
    have value : 2147483648 = number := (only 2147483648).mpr (by decide)
    rw [value]
    exact extended
  · rcases (twosComplement_exact 8 (by decide)).1 (by decide) 0x7F with
      ⟨number, _, _, _, only, same⟩
    have value : 127 = number := (only 127).mpr (by decide)
    rw [value]
    exact same 0x8000007F (by decide)

end TwinIsa
