import TwinIsa.Immediate
import TwinIsa.Proofs.BalancedTernary

/-!
Each kind of immediate field is a bijection between its range of numbers and its legal fields. The
three representations are treated apart only here: `fieldOf` is the field of a number as a natural
number, and what follows about encoding and decoding holds for every kind alike.
-/

namespace TwinIsa

/-! ## Powers of two -/

theorem natCast_two_pow (exponent : Nat) : ((2 ^ exponent : Nat) : Int) = 2 ^ exponent :=
  Int.natCast_pow 2 exponent

theorem two_pow_le_two_pow {exponent bound : Nat} (le : exponent ≤ bound) :
    (2 : Int) ^ exponent ≤ 2 ^ bound := by
  exact_mod_cast Nat.pow_le_pow_right (by decide) le

/-! ## Two's complement -/

theorem toNat_emod_lt (width : Nat) (number : Int) : (number % 2 ^ width).toNat < 2 ^ width := by
  have positive : (0 : Int) < 2 ^ width := Int.pow_pos (by decide)
  have remainder := Int.emod_lt_of_pos number positive
  have power : ((2 ^ width : Nat) : Int) = 2 ^ width := natCast_two_pow width
  omega

theorem two_pow_eq_twice {width : Nat} (signed : 1 ≤ width) :
    (2 : Int) ^ width = 2 * 2 ^ (width - 1) := by
  obtain ⟨rest, rfl⟩ : ∃ rest, width = rest + 1 := ⟨width - 1, by omega⟩
  rw [Int.pow_succ, Nat.add_sub_cancel, Int.mul_comm]

theorem signExtend_emod {width : Nat} {number : Int} (signed : 1 ≤ width)
    (lower : -2 ^ (width - 1) ≤ number) (upper : number ≤ 2 ^ (width - 1) - 1) :
    signExtend width (number % 2 ^ width).toNat = number := by
  have positive : (0 : Int) < 2 ^ width := Int.pow_pos (by decide)
  have remainder : 0 ≤ number % 2 ^ width := Int.emod_nonneg number (by omega)
  have twice := two_pow_eq_twice signed
  have power : ((2 ^ width : Nat) : Int) = 2 ^ width := natCast_two_pow width
  rw [signExtend, Int.toNat_of_nonneg remainder, ← power, Int.emod_bmod]
  apply Int.bmod_eq_of_le_mul_two
  · rw [power]
    omega
  · rw [power]
    omega

theorem signExtend_bounds {width : Nat} (signed : 1 ≤ width) (field : Nat) :
    -2 ^ (width - 1) ≤ signExtend width field ∧
      signExtend width field ≤ 2 ^ (width - 1) - 1 := by
  have lower : -(((2 ^ width : Nat) : Int) / 2) ≤ Int.bmod field (2 ^ width) :=
    Int.le_bmod (Nat.two_pow_pos width)
  have upper : Int.bmod field (2 ^ width) < (((2 ^ width : Nat) : Int) + 1) / 2 :=
    Int.bmod_lt (Nat.two_pow_pos width)
  have twice := two_pow_eq_twice signed
  have power : ((2 ^ width : Nat) : Int) = 2 ^ width := natCast_two_pow width
  rw [signExtend]
  omega

theorem signExtend_toNat_emod (width field : Nat) :
    (signExtend width field % 2 ^ width).toNat = field % 2 ^ width := by
  have power : ((2 ^ width : Nat) : Int) = 2 ^ width := natCast_two_pow width
  rw [signExtend, ← power, Int.bmod_emod, ← Int.natCast_emod, Int.toNat_natCast]

namespace ImmediateKind

/-! ## Fields of every kind -/

/-- The widths at which a field can hold all numbers of its range within a word. -/
def Fits : ImmediateKind → Prop
  | unsigned bits => bits ≤ 31
  | signed bits => 1 ≤ bits ∧ bits ≤ 31
  | trits count => count ≤ 15

instance (kind : ImmediateKind) : Decidable kind.Fits := by
  cases kind <;> unfold Fits <;> infer_instance

theorem Fits.width_le {kind : ImmediateKind} (fits : kind.Fits) : kind.width ≤ 31 := by
  cases kind <;> simp only [Fits, width] at fits ⊢ <;> omega

def fieldOf : ImmediateKind → Int → Nat
  | unsigned _, number => number.toNat
  | signed bits, number => (number % 2 ^ bits).toNat
  | trits count, number => BalancedTernary.pack count number

variable {kind : ImmediateKind} {number : Int}

theorem encode_of_mem_range (lower : kind.least ≤ number) (upper : number ≤ kind.greatest) :
    kind.encode number = .ok (UInt32.ofNat (kind.fieldOf number)) := by
  have within : ¬(number < kind.least ∨ kind.greatest < number) := by omega
  unfold encode
  rw [if_neg within]
  cases kind with
  | unsigned bits => rfl
  | signed bits => rfl
  | trits count => exact BalancedTernary.encode_of_mem_range lower upper

theorem range_of_encode {field : Word} (encoded : kind.encode number = .ok field) :
    kind.least ≤ number ∧ number ≤ kind.greatest := by
  unfold encode at encoded
  split at encoded
  · contradiction
  · omega

theorem exists_encode_iff :
    (∃ field, kind.encode number = .ok field) ↔ kind.least ≤ number ∧ number ≤ kind.greatest := by
  constructor
  · intro encodes
    rcases encodes with ⟨field, encoded⟩
    exact range_of_encode encoded
  · intro within
    rcases within with ⟨lower, upper⟩
    exact ⟨_, encode_of_mem_range lower upper⟩

theorem encode_of_outside (outside : number < kind.least ∨ kind.greatest < number) :
    kind.encode number = .error (.immediateOutOfRange number kind.least kind.greatest) := by
  unfold encode
  rw [if_pos outside]

theorem encode_eq_error_iff {error : LineError} :
    kind.encode number = .error error ↔
      (number < kind.least ∨ kind.greatest < number) ∧
        error = .immediateOutOfRange number kind.least kind.greatest := by
  constructor
  · intro failed
    have outside : ¬(kind.least ≤ number ∧ number ≤ kind.greatest) := by
      intro within
      rcases within with ⟨lower, upper⟩
      rw [encode_of_mem_range lower upper] at failed
      contradiction
    have above : number < kind.least ∨ kind.greatest < number := by omega
    rw [encode_of_outside above] at failed
    exact ⟨above, (Except.error.inj failed).symm⟩
  · intro fault
    rcases fault with ⟨above, equal⟩
    rw [encode_of_outside above, equal]

theorem natAbs_le_of_mem_range (fits : kind.Fits) (lower : kind.least ≤ number)
    (upper : number ≤ kind.greatest) : number.natAbs ≤ 2 ^ (31 : Nat) := by
  cases kind with
  | unsigned bits =>
      have room : (2 : Int) ^ bits ≤ 2 ^ 31 := two_pow_le_two_pow fits
      simp only [least, greatest] at lower upper
      omega
  | signed bits =>
      have bound : bits - 1 ≤ 31 := Nat.le_trans (Nat.sub_le bits 1) fits.2
      have room : (2 : Int) ^ (bits - 1) ≤ 2 ^ 31 := two_pow_le_two_pow bound
      simp only [least, greatest] at lower upper
      omega
  | trits count =>
      have room : (3 : Int) ^ count ≤ 3 ^ 15 := by
        exact_mod_cast Nat.pow_le_pow_right (by decide) fits
      simp only [least, greatest, BalancedTernary.maxMagnitude] at lower upper
      omega

theorem fieldOf_lt (lower : kind.least ≤ number) (upper : number ≤ kind.greatest) :
    kind.fieldOf number < 2 ^ kind.width := by
  cases kind with
  | unsigned bits =>
      have power : ((2 ^ bits : Nat) : Int) = 2 ^ bits := natCast_two_pow bits
      simp only [least, greatest, fieldOf, width] at lower upper ⊢
      omega
  | signed bits => exact toNat_emod_lt bits number
  | trits count => exact BalancedTernary.pack_lt count number

theorem fieldOf_toNat (fits : kind.Fits) (lower : kind.least ≤ number)
    (upper : number ≤ kind.greatest) :
    (UInt32.ofNat (kind.fieldOf number)).toNat = kind.fieldOf number := by
  have bound := fieldOf_lt lower upper
  have room : 2 ^ kind.width ≤ 2 ^ 31 := Nat.pow_le_pow_right (by decide) fits.width_le
  have size : 2 ^ 31 < UInt32.size := by decide
  rw [UInt32.toNat_ofNat_of_lt' (by omega)]

theorem decode_congr {bits others : Word}
    (same : bits.toNat % 2 ^ kind.width = others.toNat % 2 ^ kind.width) :
    kind.decode bits = kind.decode others := by
  unfold decode
  rw [same]

theorem decode_of_encode {field : Word} (fits : kind.Fits)
    (encoded : kind.encode number = .ok field) :
    field.toNat < 2 ^ kind.width ∧ kind.decode field = some number := by
  rcases range_of_encode encoded with ⟨lower, upper⟩
  have bound := fieldOf_lt lower upper
  rw [encode_of_mem_range lower upper] at encoded
  have whole : field.toNat = kind.fieldOf number := by
    rw [← Except.ok.inj encoded, fieldOf_toNat fits lower upper]
  rw [whole]
  refine ⟨bound, ?_⟩
  simp only [decode]
  rw [whole, Nat.mod_eq_of_lt bound]
  cases kind with
  | unsigned bits =>
      simp only [least] at lower
      simp only [fieldOf, Int.toNat_of_nonneg lower]
  | signed bits =>
      simp only [fieldOf]
      rw [signExtend_emod fits.1 lower upper]
  | trits count => exact BalancedTernary.unpack?_pack lower upper

theorem encode_of_decode {bits : Word} (fits : kind.Fits)
    (decoded : kind.decode bits = some number) :
    kind.encode number = .ok (UInt32.ofNat (bits.toNat % 2 ^ kind.width)) := by
  suffices holds : kind.least ≤ number ∧ number ≤ kind.greatest ∧
      kind.fieldOf number = bits.toNat % 2 ^ kind.width by
    rw [encode_of_mem_range holds.1 holds.2.1, holds.2.2]
  have bound := Nat.mod_lt bits.toNat (Nat.two_pow_pos kind.width)
  cases kind with
  | unsigned width =>
      have power : ((2 ^ width : Nat) : Int) = 2 ^ width := natCast_two_pow width
      simp only [decode, ImmediateKind.width, Option.some.injEq] at decoded bound
      subst decoded
      simp only [least, greatest, fieldOf, ImmediateKind.width]
      omega
  | signed width =>
      simp only [decode, ImmediateKind.width, Option.some.injEq] at decoded
      subst decoded
      refine ⟨(signExtend_bounds fits.1 _).1, (signExtend_bounds fits.1 _).2, ?_⟩
      simp only [fieldOf, ImmediateKind.width]
      rw [signExtend_toNat_emod, Nat.mod_mod]
  | trits count =>
      rcases BalancedTernary.pack_of_unpack? decoded with ⟨packed, lower, upper⟩
      refine ⟨lower, upper, ?_⟩
      simp only [fieldOf, ImmediateKind.width] at packed ⊢
      rw [packed, Nat.mod_mod]

end ImmediateKind

end TwinIsa
