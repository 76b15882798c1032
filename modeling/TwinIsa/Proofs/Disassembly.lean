import TwinIsa.Proofs.AcceptedTables
import TwinIsa.Proofs.SourceText
import TwinIsa.Proofs.WordCodec

/-!
Disassembled words as source lines. Making a table asks nothing of a mnemonic but that it is new,
while a line cannot say every mnemonic, so a word may be disassembled into a line that assembles to
something else or to nothing. This depends on the mnemonic alone: the operands of a word are always
written as the line's operands.
-/

namespace TwinIsa.Instruction

variable {table : OpcodeTable} {word : Word} {instruction : Instruction}

theorem mem_rows_of_ofWord? (decoded : ofWord? table word = some instruction) :
    ∃ row ∈ table.rows, instruction.mnemonic = row.mnemonic := by
  rcases ofWord?_eq_some_iff.mp decoded with ⟨_, row, _, _, _, member, _, _, _, _, _, rfl⟩
  exact ⟨row, member, rfl⟩

theorem mnemonic_of_encode {line : SourceLine}
    (decoded : ofWord? table word = some instruction) (encoded : line.encode table = .ok word) :
    line.mnemonic = instruction.mnemonic := by
  rcases ofWord?_of_encode encoded with ⟨_, _, _, _, _, _, _, decodedLine⟩
  rw [decoded, Option.some.injEq] at decodedLine
  rw [decodedLine]

/-- A disassembled word assembles to itself if and only if its mnemonic can be a field of a line. -/
theorem text_assembles_iff {isa : Isa} {rows : List Row}
    (made : OpcodeTable.ofRows isa rows = .ok table)
    (decoded : ofWord? table word = some instruction) :
    (∃ line : SourceLine, Line.ofText? instruction.text = some (.instruction line) ∧
      line.encode table = .ok word) ↔ Text.IsField instruction.mnemonic.toList := by
  constructor
  · rintro ⟨line, read, encoded⟩
    rw [← mnemonic_of_encode decoded encoded]
    exact (Line.mnemonic_of_ofText? read).1
  · intro field
    rcases mem_rows_of_ofWord? decoded with ⟨row, member, mnemonic⟩
    have capitalized := OpcodeTable.isCapitalized_of_ofRows made row member
    rw [← mnemonic] at capitalized
    exact ⟨instruction.sourceLine, ofText?_text field capitalized, encode_sourceLine decoded⟩

theorem text_assembles_jump :
    ∃ table instruction, OpcodeTable.ofRows .binary [⟨"jump", 1, .registerPair⟩] = .ok table ∧
      ofWord? table 0x0BA0 = some instruction ∧ instruction.text = "JUMP R3, R5" ∧
      ∃ line : SourceLine, Line.ofText? instruction.text = some (.instruction line) ∧
        line.encode table = .ok 0x0BA0 := by
  have decodes : (OpcodeTable.ofRows .binary [⟨"jump", 1, .registerPair⟩]).toOption.bind
      (ofWord? · 0x0BA0) = some ⟨"JUMP", 1, .registerPair, .registerPair 3 5⟩ := by decide +kernel
  cases made : OpcodeTable.ofRows .binary [⟨"jump", 1, .registerPair⟩] with
  | error rejection =>
      rw [made] at decodes
      contradiction
  | ok table =>
      rw [made] at decodes
      exact ⟨table, _, rfl, decodes, by decide,
        (text_assembles_iff made decodes).mpr (by decide)⟩

/-- A mnemonic with a space in it is accepted into a table, but its word is disassembled into a line
with another mnemonic. -/
theorem spaced_mnemonic_not_assembled :
    ∃ table instruction, OpcodeTable.ofRows .binary [⟨"A B", 1, .noOperand⟩] = .ok table ∧
      ofWord? table 0x0800 = some instruction ∧
      ¬∃ line : SourceLine, Line.ofText? instruction.text = some (.instruction line) ∧
        line.encode table = .ok 0x0800 := by
  have decodes : (OpcodeTable.ofRows .binary [⟨"A B", 1, .noOperand⟩]).toOption.bind
      (ofWord? · 0x0800) = some ⟨"A B", 1, .noOperand, .bare⟩ := by decide +kernel
  cases made : OpcodeTable.ofRows .binary [⟨"A B", 1, .noOperand⟩] with
  | error rejection =>
      rw [made] at decodes
      contradiction
  | ok table =>
      rw [made] at decodes
      refine ⟨table, _, rfl, decodes, ?_⟩
      rintro ⟨line, read, encoded⟩
      have field := (Line.mnemonic_of_ofText? read).1
      rw [mnemonic_of_encode decodes encoded] at field
      exact absurd field (by decide)

end TwinIsa.Instruction
