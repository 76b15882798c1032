import TwinIsa.Operands
import TwinIsa.Proofs.BitFields
import TwinIsa.Proofs.Immediate
import TwinIsa.Proofs.Spelling
import TwinIsa.Proofs.Steps

/-!
Operands between tokens, values and bits. `Spelled` relates the tokens of a line to the values they
spell, and `Valid` is what such values have in common. Values that are valid are read back from
their bits, and bits that decode are the bits of the values they decode to.
-/

namespace TwinIsa

def Layout.Holds (layout : Layout) : Shape → Prop
  | .bare => True
  | .registerPair => True
  | .registerImmediate kind => kind.Fits ∧ kind.width ≤ layout.firstShift
  | .memory kind => kind.Fits ∧ kind.width ≤ layout.secondShift

theorem Isa.layout_holds {isa : Isa} {format : Format} {shape : Shape}
    (available : isa.shape? format = some shape) : isa.layout.Holds shape := by
  cases isa <;> cases format <;> simp only [shape?, Option.some.injEq, reduceCtorEq] at available
  all_goals
    subst available
    simp [Layout.Holds, ImmediateKind.Fits, ImmediateKind.width, layout]

theorem Layout.Ordered.register_fits {layout : Layout} (ordered : layout.Ordered) {register : Nat}
    (le : register ≤ layout.greatestRegister) : register < Word.count := by
  have narrow : 2 ^ layout.registerBits ≤ 2 ^ 32 := by
    have first := ordered.first_below_opcode
    have top := ordered.opcode_on_top
    have fits := ordered.word_fits
    exact Nat.pow_le_pow_right (by decide) (by omega)
  exact Nat.lt_of_lt_of_le (ordered.register_lt le) narrow

theorem Register.read_le {layout : Layout} {token : String} {register : Nat}
    (read : Register.read layout token = .ok register) : register ≤ layout.greatestRegister := by
  unfold Register.read at read
  split at read
  · contradiction
  · split at read
    · cases read
      assumption
    · contradiction

namespace Operands

inductive Spelled (layout : Layout) : Shape → List String → Operands → Prop
  | bare : Spelled layout .bare [] bare
  | registerPair {firstToken secondToken : String} {first second : Nat}
      (readFirst : Register.read layout firstToken = .ok first)
      (readSecond : Register.read layout secondToken = .ok second) :
      Spelled layout .registerPair [firstToken, secondToken] (registerPair first second)
  | registerImmediate {kind : ImmediateKind} {registerToken immediateToken : String}
      {register : Nat} {immediate : Int}
      (readRegister : Register.read layout registerToken = .ok register)
      (readImmediate : Literal.read layout.bareHex immediateToken = .ok immediate) :
      Spelled layout (.registerImmediate kind) [registerToken, immediateToken]
        (registerImmediate register immediate)
  | memory {kind : ImmediateKind} {firstToken secondToken offsetToken : String}
      {first second : Nat} {offset : Int}
      (readFirst : Register.read layout firstToken = .ok first)
      (readSecond : Register.read layout secondToken = .ok second)
      (readOffset : Literal.read layout.bareHex offsetToken = .ok offset) :
      Spelled layout (.memory kind) [firstToken, secondToken, offsetToken]
        (memory first second offset)

inductive Valid (layout : Layout) : Shape → Operands → Prop
  | bare : Valid layout .bare bare
  | registerPair {first second : Nat} (firstLe : first ≤ layout.greatestRegister)
      (secondLe : second ≤ layout.greatestRegister) :
      Valid layout .registerPair (registerPair first second)
  | registerImmediate {kind : ImmediateKind} {register : Nat} {immediate : Int}
      (le : register ≤ layout.greatestRegister) :
      Valid layout (.registerImmediate kind) (registerImmediate register immediate)
  | memory {kind : ImmediateKind} {first second : Nat} {offset : Int}
      (firstLe : first ≤ layout.greatestRegister) (secondLe : second ≤ layout.greatestRegister) :
      Valid layout (.memory kind) (memory first second offset)

variable {layout : Layout} {shape : Shape} {tokens : List String} {operands : Operands}

/-! ## Tokens and values -/

theorem read?_eq_ok_iff :
    read? layout shape tokens = some (.ok operands) ↔ Spelled layout shape tokens operands := by
  constructor
  · intro read
    unfold read? at read
    split at read
    · cases read
      exact .bare
    · simp only [Option.some.injEq, readRegisterPair, bind_eq_ok_iff] at read
      rcases read with ⟨first, readFirst, second, readSecond, equal⟩
      cases equal
      exact .registerPair readFirst readSecond
    · simp only [Option.some.injEq, readRegisterImmediate, bind_eq_ok_iff] at read
      rcases read with ⟨register, readRegister, immediate, readImmediate, equal⟩
      cases equal
      exact .registerImmediate readRegister readImmediate
    · simp only [Option.some.injEq, readMemory, bind_eq_ok_iff] at read
      rcases read with ⟨first, readFirst, second, readSecond, offset, readOffset, equal⟩
      cases equal
      exact .memory readFirst readSecond readOffset
    · contradiction
  · intro spelled
    cases spelled with
    | bare => rfl
    | registerPair readFirst readSecond =>
        rw [read?, readRegisterPair, readFirst, readSecond]
        rfl
    | registerImmediate readRegister readImmediate =>
        rw [read?, readRegisterImmediate, readRegister, readImmediate]
        rfl
    | memory readFirst readSecond readOffset =>
        rw [read?, readMemory, readFirst, readSecond, readOffset]
        rfl

theorem Spelled.valid (spelled : Spelled layout shape tokens operands) :
    Valid layout shape operands := by
  cases spelled with
  | bare => exact .bare
  | registerPair readFirst readSecond =>
      exact .registerPair (Register.read_le readFirst) (Register.read_le readSecond)
  | registerImmediate readRegister _ => exact .registerImmediate (Register.read_le readRegister)
  | memory readFirst readSecond _ =>
      exact .memory (Register.read_le readFirst) (Register.read_le readSecond)

/-! ## Values and bits -/

theorem toNat_ofNat_or {registers : Nat} (fits : registers < Word.count) (field : Word) :
    (UInt32.ofNat registers ||| field).toNat = registers ||| field.toNat := by
  rw [UInt32.toNat_or, UInt32.toNat_ofNat_of_lt' fits]

/-- What the bits of valid operands are for the decoder: they stay below the opcode, set no bit
that their shape does not use, and store the operands. -/
structure Stores (layout : Layout) (shape : Shape) (word : Word) (operands : Operands) : Prop where
  below_opcode : word.toNat < 2 ^ layout.opcodeShift
  within_used : word.toNat &&& layout.usedBits shape = word.toNat
  stored : ofBits? layout word shape = some operands

variable {word : Word}

theorem stores_registerPair (ordered : layout.Ordered) {first second : Nat}
    (firstLe : first ≤ layout.greatestRegister) (secondLe : second ≤ layout.greatestRegister)
    (whole : word.toNat = layout.placeFirst first ||| layout.placeSecond second) :
    Stores layout .registerPair word (registerPair first second) := by
  have secondLow := ordered.placeSecond_lt secondLe
  constructor
  · rw [whole]
    exact Nat.or_lt_two_pow (ordered.placeFirst_lt firstLe) (ordered.lt_opcode secondLow)
  · rw [whole, Layout.usedBits]
    exact Word.or_and_or_eq
      (Word.shiftLeft_and_mask_shiftLeft layout.firstShift (ordered.register_lt firstLe))
      (Word.shiftLeft_and_mask_shiftLeft layout.secondShift (ordered.register_lt secondLe))
  · have readSecond := ordered.register?_placeSecond first secondLe
      (Nat.two_pow_pos layout.secondShift)
    rw [Nat.or_zero] at readSecond
    rw [ofBits?, whole, ordered.register?_placeFirst firstLe secondLow, readSecond]
    rfl

theorem stores_registerImmediate (ordered : layout.Ordered) {kind : ImmediateKind}
    (holds : layout.Holds (.registerImmediate kind)) {register : Nat} {immediate : Int}
    {field : Word} (le : register ≤ layout.greatestRegister)
    (encoded : kind.encode immediate = .ok field)
    (whole : word.toNat = layout.placeFirst register ||| field.toNat) :
    Stores layout (.registerImmediate kind) word (registerImmediate register immediate) := by
  rcases holds with ⟨fits, room⟩
  rcases kind.decode_of_encode fits encoded with ⟨bound, decoded⟩
  have low : field.toNat < 2 ^ layout.firstShift :=
    Nat.lt_of_lt_of_le bound (Nat.pow_le_pow_right (by decide) room)
  constructor
  · rw [whole]
    exact Nat.or_lt_two_pow (ordered.placeFirst_lt le) (ordered.lt_opcode low)
  · rw [whole, Layout.usedBits]
    refine Word.or_and_or_eq
      (Word.shiftLeft_and_mask_shiftLeft layout.firstShift (ordered.register_lt le)) ?_
    rw [ImmediateKind.mask, Word.and_mask, Nat.mod_eq_of_lt bound]
  · have same : word.toNat % 2 ^ kind.width = field.toNat % 2 ^ kind.width := by
      rw [whole, Layout.placeFirst, Word.shiftLeft_or_mod _ _ room]
    rw [ofBits?, kind.decode_congr same, decoded, whole, ordered.register?_placeFirst le low]
    rfl

theorem stores_memory (ordered : layout.Ordered) {kind : ImmediateKind}
    (holds : layout.Holds (.memory kind)) {first second : Nat} {offset : Int} {field : Word}
    (firstLe : first ≤ layout.greatestRegister) (secondLe : second ≤ layout.greatestRegister)
    (encoded : kind.encode offset = .ok field)
    (whole : word.toNat =
      layout.placeFirst first ||| (layout.placeSecond second ||| field.toNat)) :
    Stores layout (.memory kind) word (memory first second offset) := by
  rcases holds with ⟨fits, room⟩
  rcases kind.decode_of_encode fits encoded with ⟨bound, decoded⟩
  have fieldLow : field.toNat < 2 ^ layout.secondShift :=
    Nat.lt_of_lt_of_le bound (Nat.pow_le_pow_right (by decide) room)
  have low : layout.placeSecond second ||| field.toNat < 2 ^ layout.firstShift :=
    Nat.or_lt_two_pow (ordered.placeSecond_lt secondLe) (ordered.lt_first fieldLow)
  constructor
  · rw [whole]
    exact Nat.or_lt_two_pow (ordered.placeFirst_lt firstLe) (ordered.lt_opcode low)
  · rw [whole, Layout.usedBits, Nat.or_assoc (layout.placeFirst _)]
    refine Word.or_and_or_eq
      (Word.shiftLeft_and_mask_shiftLeft layout.firstShift (ordered.register_lt firstLe))
      (Word.or_and_or_eq
        (Word.shiftLeft_and_mask_shiftLeft layout.secondShift (ordered.register_lt secondLe)) ?_)
    rw [ImmediateKind.mask, Word.and_mask, Nat.mod_eq_of_lt bound]
  · have roomFirst : kind.width ≤ layout.firstShift := by
      have between := ordered.second_below_first
      omega
    have same : word.toNat % 2 ^ kind.width = field.toNat % 2 ^ kind.width := by
      rw [whole, Layout.placeFirst, Word.shiftLeft_or_mod _ _ roomFirst, Layout.placeSecond,
        Word.shiftLeft_or_mod _ _ room]
    rw [ofBits?, kind.decode_congr same, decoded, whole, ordered.register?_placeFirst firstLe low,
      ordered.register?_placeSecond first secondLe fieldLow]
    rfl

theorem Valid.stores (valid : Valid layout shape operands) (ordered : layout.Ordered)
    (holds : layout.Holds shape) (encoded : operands.bits layout shape = .ok word) :
    Stores layout shape word operands := by
  have topFits : 2 ^ layout.opcodeShift ≤ 2 ^ 32 := by
    have top := ordered.opcode_on_top
    have fits := ordered.word_fits
    exact Nat.pow_le_pow_right (by decide) (by omega)
  cases valid with
  | bare =>
      cases encoded
      have within : (0 : Word).toNat &&& layout.usedBits .bare = (0 : Word).toNat := Nat.zero_and _
      exact ⟨Nat.two_pow_pos _, within, rfl⟩
  | registerPair firstLe secondLe =>
      cases encoded
      have low := Nat.or_lt_two_pow (ordered.placeFirst_lt firstLe)
        (ordered.lt_opcode (ordered.placeSecond_lt secondLe))
      exact stores_registerPair ordered firstLe secondLe
        (UInt32.toNat_ofNat_of_lt' (Nat.lt_of_lt_of_le low topFits))
  | registerImmediate le =>
      simp only [bits, Shape.immediate?, immediate?, bind_eq_ok_iff] at encoded
      rcases encoded with ⟨field, encodedField, equal⟩
      cases equal
      apply stores_registerImmediate ordered holds le encodedField
      exact toNat_ofNat_or (Nat.lt_of_lt_of_le (ordered.placeFirst_lt le) topFits) field
  | memory firstLe secondLe =>
      simp only [bits, Shape.immediate?, immediate?, bind_eq_ok_iff] at encoded
      rcases encoded with ⟨field, encodedField, equal⟩
      cases equal
      have low := Nat.or_lt_two_pow (ordered.placeFirst_lt firstLe)
        (ordered.lt_opcode (ordered.placeSecond_lt secondLe))
      apply stores_memory ordered holds firstLe secondLe encodedField
      rw [← Nat.or_assoc]
      exact toNat_ofNat_or (Nat.lt_of_lt_of_le low topFits) field

theorem Valid.spelled_texts (valid : Valid layout shape operands) (ordered : layout.Ordered)
    (holds : layout.Holds shape) (encoded : operands.bits layout shape = .ok word) :
    Spelled layout shape operands.texts operands := by
  have readRegister {register : Nat} (le : register ≤ layout.greatestRegister) :
      Register.read layout (registerText register) = .ok register :=
    Register.read_registerText le (ordered.register_fits le)
  have readImmediate {kind : ImmediateKind} {immediate : Int} {field : Word} (fits : kind.Fits)
      (encodedField : kind.encode immediate = .ok field) :
      Literal.read layout.bareHex (Numeral.decimalText immediate) = .ok immediate := by
    rcases ImmediateKind.range_of_encode encodedField with ⟨lower, upper⟩
    have small := ImmediateKind.natAbs_le_of_mem_range fits lower upper
    exact Literal.read_decimalText layout.bareHex (Nat.le_trans small (by decide))
  cases valid with
  | bare => exact .bare
  | registerPair firstLe secondLe =>
      exact .registerPair (readRegister firstLe) (readRegister secondLe)
  | registerImmediate le =>
      simp only [bits, Shape.immediate?, immediate?, bind_eq_ok_iff] at encoded
      rcases encoded with ⟨field, encodedField, _⟩
      exact .registerImmediate (readRegister le) (readImmediate holds.1 encodedField)
  | memory firstLe secondLe =>
      simp only [bits, Shape.immediate?, immediate?, bind_eq_ok_iff] at encoded
      rcases encoded with ⟨field, encodedField, _⟩
      exact .memory (readRegister firstLe) (readRegister secondLe)
        (readImmediate holds.1 encodedField)

theorem bits_of_ofBits? (holds : layout.Holds shape)
    (withinUsed : word.toNat &&& layout.usedBits shape = word.toNat)
    (decoded : ofBits? layout word shape = some operands) :
    Valid layout shape operands ∧ operands.bits layout shape = .ok word := by
  unfold ofBits? at decoded
  cases shape with
  | bare =>
      cases decoded
      refine ⟨.bare, ?_⟩
      rw [Layout.usedBits, Nat.and_zero] at withinUsed
      have zero : word = 0 := UInt32.toNat_inj.mp withinUsed.symm
      rw [zero]
      rfl
  | registerPair =>
      simp only [Option.bind_eq_bind, Option.bind_eq_some_iff, Option.pure_def,
        Option.some.injEq] at decoded
      rcases decoded with ⟨first, readFirst, second, readSecond, rfl⟩
      rcases Layout.register?_eq_some_iff.mp readFirst with ⟨firstField, firstLe⟩
      rcases Layout.register?_eq_some_iff.mp readSecond with ⟨secondField, secondLe⟩
      refine ⟨.registerPair firstLe secondLe, ?_⟩
      rw [Layout.usedBits, Nat.and_or_distrib_left, Layout.and_placeFirst, firstField,
        Layout.and_placeSecond, secondField] at withinUsed
      simp only [bits, Shape.immediate?, immediate?, registerFields]
      rw [withinUsed, UInt32.ofNat_toNat]
  | registerImmediate kind =>
      simp only [Option.bind_eq_bind, Option.bind_eq_some_iff, Option.pure_def,
        Option.some.injEq] at decoded
      rcases decoded with ⟨register, readRegister, immediate, decodedImmediate, rfl⟩
      rcases Layout.register?_eq_some_iff.mp readRegister with ⟨field, le⟩
      refine ⟨.registerImmediate le, ?_⟩
      rw [Layout.usedBits, Nat.and_or_distrib_left, Layout.and_placeFirst, field,
        ImmediateKind.mask, Word.and_mask] at withinUsed
      simp only [bits, Shape.immediate?, immediate?, registerFields, bind_eq_ok_iff]
      refine ⟨_, kind.encode_of_decode holds.1 decodedImmediate, ?_⟩
      rw [← UInt32.ofNat_or, withinUsed, UInt32.ofNat_toNat]
      rfl
  | memory kind =>
      simp only [Option.bind_eq_bind, Option.bind_eq_some_iff, Option.pure_def,
        Option.some.injEq] at decoded
      rcases decoded with ⟨first, readFirst, second, readSecond, offset, decodedOffset, rfl⟩
      rcases Layout.register?_eq_some_iff.mp readFirst with ⟨firstField, firstLe⟩
      rcases Layout.register?_eq_some_iff.mp readSecond with ⟨secondField, secondLe⟩
      refine ⟨.memory firstLe secondLe, ?_⟩
      rw [Layout.usedBits, Nat.and_or_distrib_left, Nat.and_or_distrib_left,
        Layout.and_placeFirst, firstField, Layout.and_placeSecond, secondField,
        ImmediateKind.mask, Word.and_mask] at withinUsed
      simp only [bits, Shape.immediate?, immediate?, registerFields, bind_eq_ok_iff]
      refine ⟨_, kind.encode_of_decode holds.1 decodedOffset, ?_⟩
      rw [← UInt32.ofNat_or, withinUsed, UInt32.ofNat_toNat]
      rfl

end Operands

end TwinIsa
