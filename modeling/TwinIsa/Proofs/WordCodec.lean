import Mathlib.Data.Option.Basic
import TwinIsa.Instruction
import TwinIsa.Proofs.Operands
import TwinIsa.Proofs.TableLookup

/-!
Encoding a line and decoding a word are inverse. Each direction is first put as an equivalence
that says all of what the function does; then the word of a line is taken apart into an opcode and
operand bits, for which the inverse laws of tables and operands are at hand.
-/

namespace TwinIsa

/-! ## Words of an opcode and operand bits -/

namespace OpcodeTable

variable {table : OpcodeTable} {row : Row} {operandBits : Word}

theorem toNat_assembleWord (member : row ∈ table.rows)
    (below : operandBits.toNat < 2 ^ table.isa.layout.opcodeShift) :
    (table.assembleWord row operandBits).toNat =
        row.opcode.toNat <<< table.isa.layout.opcodeShift ||| operandBits.toNat ∧
      (table.assembleWord row operandBits).toNat < 2 ^ table.isa.layout.wordBits := by
  have ordered := table.isa.layout_ordered
  have opcodeLow : row.opcode.toNat < 2 ^ table.isa.layout.opcodeBits := by
    have le := (table.admissible row member).opcode_le
    rw [Layout.opcodeMask, Word.mask] at le
    have positive := Nat.two_pow_pos table.isa.layout.opcodeBits
    omega
  have shifted : row.opcode.toNat <<< table.isa.layout.opcodeShift <
      2 ^ table.isa.layout.wordBits :=
    Word.shiftLeft_lt opcodeLow (Nat.le_of_eq ordered.opcode_on_top)
  have whole : (table.assembleWord row operandBits).toNat =
      row.opcode.toNat <<< table.isa.layout.opcodeShift ||| operandBits.toNat :=
    Operands.toNat_ofNat_or (Nat.lt_of_lt_of_le shifted
      (Nat.pow_le_pow_right (by decide) ordered.word_fits)) operandBits
  refine ⟨whole, ?_⟩
  rw [whole]
  refine Nat.or_lt_two_pow shifted (Nat.lt_of_lt_of_le below
    (Nat.pow_le_pow_right (by decide) ?_))
  have top := ordered.opcode_on_top
  omega

end OpcodeTable

/-! ## What encoding and decoding do -/

theorem OpcodeTable.rowAndShape?_eq_some_iff {table : OpcodeTable} {mnemonic : String} {row : Row}
    {shape : Shape} :
    table.rowAndShape? mnemonic = some (row, shape) ↔
      table.row? mnemonic = some row ∧ table.isa.shape? row.format = some shape := by
  simp only [rowAndShape?, Option.bind_eq_bind, Option.bind_eq_some_iff, Option.pure_def,
    Option.some.injEq, Prod.mk.injEq]
  constructor
  · rintro ⟨row, found, shape, available, rfl, rfl⟩
    exact ⟨found, available⟩
  · rintro ⟨found, available⟩
    exact ⟨row, found, shape, available, rfl, rfl⟩

theorem SourceLine.encode_eq_ok_iff {table : OpcodeTable} {line : SourceLine} {word : Word} :
    line.encode table = .ok word ↔
      ∃ row shape operands operandBits,
        table.row? line.mnemonic = some row ∧ table.isa.shape? row.format = some shape ∧
        Operands.Spelled table.isa.layout shape line.operands operands ∧
        operands.bits table.isa.layout shape = .ok operandBits ∧
        table.assembleWord row operandBits = word := by
  constructor
  · intro encoded
    unfold encode at encoded
    split at encoded
    · contradiction
    next row shape found =>
      split at encoded
      · contradiction
      next outcome read =>
        simp only [bind_eq_ok_iff] at encoded
        rcases encoded with ⟨operands, rfl, operandBits, bits, whole⟩
        rcases OpcodeTable.rowAndShape?_eq_some_iff.mp found with ⟨foundRow, available⟩
        exact ⟨row, shape, operands, operandBits, foundRow, available,
          Operands.read?_eq_ok_iff.mp read, bits, Except.ok.inj whole⟩
  · rintro ⟨row, shape, operands, operandBits, foundRow, available, spelled, bits, rfl⟩
    unfold encode
    rw [OpcodeTable.rowAndShape?_eq_some_iff.mpr ⟨foundRow, available⟩]
    simp only [Operands.read?_eq_ok_iff.mpr spelled, bind_eq_ok_iff]
    exact ⟨operands, rfl, operandBits, bits, rfl⟩

theorem Instruction.ofWord?_eq_some_iff {table : OpcodeTable} {word : Word}
    {instruction : Instruction} :
    ofWord? table word = some instruction ↔
      word.toNat < 2 ^ table.isa.layout.wordBits ∧
        ∃ row shape operands operandBits,
          row ∈ table.rows ∧
          row.opcode = UInt32.ofNat (word.toNat >>> table.isa.layout.opcodeShift) ∧
          table.isa.shape? row.format = some shape ∧
          operandBits = UInt32.ofNat (word.toNat &&& table.isa.layout.operandMask) ∧
          operandBits.toNat &&& table.isa.layout.usedBits shape = operandBits.toNat ∧
          Operands.ofBits? table.isa.layout operandBits shape = some operands ∧
          instruction = ⟨row.mnemonic, row.opcode, row.format, operands⟩ := by
  simp only [ofWord?, Option.bind_eq_bind, Option.bind_eq_some_iff, Option.pure_def,
    Option.guard_eq_some', Option.some.injEq, OpcodeTable.rowOfOpcode?_eq_some_iff]
  constructor
  · rintro ⟨_, narrow, row, ⟨member, opcode⟩, shape, available, _, withinUsed, operands, decoded,
      rfl⟩
    exact ⟨narrow, row, shape, operands, _, member, opcode, available, rfl, withinUsed, decoded,
      rfl⟩
  · rintro ⟨narrow, row, shape, operands, _, member, opcode, available, rfl, withinUsed, decoded,
      rfl⟩
    exact ⟨(), narrow, row, ⟨member, opcode⟩, shape, available, (), withinUsed, operands, decoded,
      rfl⟩

/-! ## Inverse laws -/

theorem Instruction.ofWord?_of_encode {table : OpcodeTable} {line : SourceLine} {word : Word}
    (encoded : line.encode table = .ok word) :
    word.toNat < 2 ^ table.isa.layout.wordBits ∧
      ∃ row shape operands,
        table.row? line.mnemonic = some row ∧ table.isa.shape? row.format = some shape ∧
        Operands.Spelled table.isa.layout shape line.operands operands ∧
        ofWord? table word = some ⟨line.mnemonic, row.opcode, row.format, operands⟩ := by
  rcases SourceLine.encode_eq_ok_iff.mp encoded with
    ⟨row, shape, operands, operandBits, foundRow, available, spelled, bits, rfl⟩
  rcases OpcodeTable.row?_eq_some_iff.mp foundRow with ⟨member, sameMnemonic⟩
  have stores := spelled.valid.stores table.isa.layout_ordered (Isa.layout_holds available) bits
  rcases OpcodeTable.toNat_assembleWord member stores.below_opcode with ⟨whole, narrow⟩
  refine ⟨narrow, row, shape, operands, foundRow, available, spelled, ?_⟩
  refine ofWord?_eq_some_iff.mpr ⟨narrow, row, shape, operands, operandBits, member, ?_, available,
    ?_, stores.within_used, stores.stored, by rw [sameMnemonic]⟩
  · rw [whole, Word.shiftLeft_or_shiftRight _ stores.below_opcode, UInt32.ofNat_toNat]
  · rw [whole, Layout.operandMask, Word.and_mask, Word.shiftLeft_or_mod _ _ (Nat.le_refl _),
      Nat.mod_eq_of_lt stores.below_opcode, UInt32.ofNat_toNat]

theorem Instruction.encode_sourceLine {table : OpcodeTable} {word : Word}
    {instruction : Instruction} (decoded : ofWord? table word = some instruction) :
    instruction.sourceLine.encode table = .ok word := by
  rcases ofWord?_eq_some_iff.mp decoded with ⟨_, row, shape, operands, operandBits, member, opcode,
    available, masked, withinUsed, stored, rfl⟩
  have holds := Isa.layout_holds available
  rcases Operands.bits_of_ofBits? holds withinUsed stored with ⟨valid, bits⟩
  refine SourceLine.encode_eq_ok_iff.mpr ⟨row, shape, operands, operandBits,
    OpcodeTable.row?_eq_some_iff.mpr ⟨member, rfl⟩, available,
    valid.spelled_texts table.isa.layout_ordered holds bits, bits, ?_⟩
  have opcodeNumber : row.opcode.toNat = word.toNat >>> table.isa.layout.opcodeShift := by
    rw [opcode]
    apply UInt32.toNat_ofNat_of_lt'
    apply Nat.lt_of_le_of_lt _ word.toNat_lt
    rw [Nat.shiftRight_eq_div_pow]
    exact Nat.div_le_self _ _
  rw [OpcodeTable.assembleWord, opcodeNumber, masked, ← UInt32.ofNat_or, Layout.operandMask,
    Word.and_mask, Word.shiftLeft_shiftRight_or_mod, UInt32.ofNat_toNat]

theorem Instruction.ofWord?_eq_none_iff {table : OpcodeTable} {word : Word} :
    ofWord? table word = none ↔ ∀ line : SourceLine, line.encode table ≠ .ok word := by
  constructor
  · intro undecoded line encoded
    rcases ofWord?_of_encode encoded with ⟨_, _, _, _, _, _, _, decoded⟩
    rw [undecoded] at decoded
    contradiction
  · intro unspelled
    cases decoded : ofWord? table word with
    | none => rfl
    | some instruction => exact absurd (encode_sourceLine decoded) (unspelled _)

/-- Lines with one word differ at most in how they spell their operands. -/
theorem SourceLine.same_of_encode {table : OpcodeTable} {line other : SourceLine} {word : Word}
    (encoded : line.encode table = .ok word) (otherEncoded : other.encode table = .ok word) :
    line.mnemonic = other.mnemonic ∧
      ∃ row shape operands,
        table.row? line.mnemonic = some row ∧ table.isa.shape? row.format = some shape ∧
        Operands.Spelled table.isa.layout shape line.operands operands ∧
        Operands.Spelled table.isa.layout shape other.operands operands := by
  rcases Instruction.ofWord?_of_encode encoded with
    ⟨_, row, shape, operands, found, available, spelled, decoded⟩
  rcases Instruction.ofWord?_of_encode otherEncoded with
    ⟨_, otherRow, otherShape, otherOperands, otherFound, otherAvailable, otherSpelled,
      otherDecoded⟩
  rw [decoded, Option.some.injEq, Instruction.mk.injEq] at otherDecoded
  rcases otherDecoded with ⟨mnemonic, _, _, rfl⟩
  rw [← mnemonic, found, Option.some.injEq] at otherFound
  subst otherFound
  rw [available, Option.some.injEq] at otherAvailable
  subst otherAvailable
  exact ⟨mnemonic, row, shape, operands, found, available, spelled, otherSpelled⟩

/-- Encoding and decoding by a table are inverse: decoding finds what a line says in its word, and
writing what a word says gives a line with that word. -/
theorem wordCodec_inverse (table : OpcodeTable) :
    (∀ (line : SourceLine) (word : Word), line.encode table = .ok word →
      word.toNat < 2 ^ table.isa.layout.wordBits ∧
        ∃ row shape operands,
          table.row? line.mnemonic = some row ∧ table.isa.shape? row.format = some shape ∧
          Operands.Spelled table.isa.layout shape line.operands operands ∧
          Instruction.ofWord? table word =
            some ⟨line.mnemonic, row.opcode, row.format, operands⟩) ∧
    (∀ (word : Word) (instruction : Instruction),
      Instruction.ofWord? table word = some instruction →
        SourceLine.encode table ⟨instruction.mnemonic, instruction.operands.texts⟩ = .ok word) ∧
    (∀ word : Word, Instruction.ofWord? table word = none ↔
      ∀ line : SourceLine, line.encode table ≠ .ok word) ∧
    ∀ (line other : SourceLine) (word : Word), line.encode table = .ok word →
      other.encode table = .ok word →
        line.mnemonic = other.mnemonic ∧
          ∃ row shape operands,
            table.row? line.mnemonic = some row ∧ table.isa.shape? row.format = some shape ∧
            Operands.Spelled table.isa.layout shape line.operands operands ∧
            Operands.Spelled table.isa.layout shape other.operands operands := by
  refine ⟨?_, ?_, ?_, ?_⟩
  · intro line word encoded
    exact Instruction.ofWord?_of_encode encoded
  · intro word instruction decoded
    exact Instruction.encode_sourceLine decoded
  · intro word
    exact Instruction.ofWord?_eq_none_iff
  · intro line other word encoded otherEncoded
    exact SourceLine.same_of_encode encoded otherEncoded

end TwinIsa
