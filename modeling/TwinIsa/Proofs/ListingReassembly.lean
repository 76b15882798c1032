import TwinIsa.Proofs.Disassembly
import TwinIsa.Proofs.RoundTrip

/-!
Assembling the listing of any words. A word that decodes is listed as a line with that word, if its
mnemonic is one that a line can say. A word that does not decode is listed with a single operand,
and no instruction of any table takes one operand, so its line is left out with a diagnostic. The
run therefore keeps the words that decode and reports the others, each by the number of its line.
-/

namespace TwinIsa

/-! ## Mnemonics that lines can say -/

/-- Every mnemonic of the table is the mnemonic of some line. -/
def OpcodeTable.Sayable (table : OpcodeTable) : Prop :=
  ∀ row ∈ table.rows, ∃ text line,
    Line.ofText? text = some (.instruction line) ∧ line.mnemonic = row.mnemonic

theorem OpcodeTable.sayable_iff {table : OpcodeTable} :
    table.Sayable ↔ ∀ row ∈ table.rows,
      Text.IsField row.mnemonic.toList ∧ Text.IsCapitalized row.mnemonic.toList := by
  constructor
  · intro sayable row member
    rcases sayable row member with ⟨text, line, read, same⟩
    rw [← same]
    exact Line.mnemonic_of_ofText? read
  · intro fields row member
    rcases fields row member with ⟨field, capitalized⟩
    let instruction : Instruction := ⟨row.mnemonic, row.opcode, row.format, .bare⟩
    have read : Line.ofText? instruction.text = some (.instruction instruction.sourceLine) :=
      Instruction.ofText?_text field capitalized
    exact ⟨instruction.text, instruction.sourceLine, read, rfl⟩

theorem Isa.sayable_builtin (isa : Isa) : isa.builtin.Sayable := by
  have fields : ∀ row ∈ isa.builtin.rows, Text.IsField row.mnemonic.toList := by
    cases isa <;> decide +kernel
  exact OpcodeTable.sayable_iff.mpr fun row member =>
    ⟨fields row member, isa.isCapitalized_builtin row member⟩

/-! ## Words that do not decode -/

namespace ListingLine

variable (word : Word)

theorem toList_wordText :
    (wordText word).toList =
      ['.', 'w', 'o', 'r', 'd'] ++ ' ' :: '0' :: 'x' :: Numeral.digits 16 word.toNat := by
  rw [wordText, String.toList_append, String.toList_ofList, String.toList_ofList]
  rfl

theorem isField_markedDigits :
    Text.IsField ('0' :: 'x' :: Numeral.digits 16 word.toNat) :=
  .cons (by decide) (.cons (by decide) (Numeral.isField_digits (by decide) (by decide) _))

theorem of_mem_wordText {character : Char} (member : character ∈ (wordText word).toList) :
    Text.IsSolid character ∨ character = ' ' := by
  rw [toList_wordText] at member
  rcases List.mem_append.mp member with directive | operand
  · have field : Text.IsField ['.', 'w', 'o', 'r', 'd'] := by decide
    exact .inl (field.2 character directive)
  · rcases List.mem_cons.mp operand with space | marked
    · exact .inr space
    · exact .inl ((isField_markedDigits word).2 character marked)

theorem ofText?_wordText :
    Line.ofText? (wordText word) = some (.instruction
      ⟨".WORD", [String.ofList ('0' :: 'x' :: Numeral.digits 16 word.toNat)]⟩) := by
  have noSemicolon : ';' ∉ (wordText word).toList := by
    intro member
    exact absurd (of_mem_wordText word member) (by decide)
  have written : (wordText word).toList.filter (· != ',') = ['.', 'w', 'o', 'r', 'd'] ++
      ['0' :: 'x' :: Numeral.digits 16 word.toNat].flatMap (' ' :: ·) := by
    have noComma : ∀ character ∈ (wordText word).toList, (character != ',') = true := by
      intro character member
      apply bne_iff_ne.mpr
      intro comma
      rw [comma] at member
      exact absurd (of_mem_wordText word member) (by decide)
    rw [List.filter_eq_self.mpr noComma, toList_wordText]
    simp
  have isField : ∀ field ∈ [['.', 'w', 'o', 'r', 'd'], '0' :: 'x' :: Numeral.digits 16 word.toNat],
      Text.IsField field := by
    rw [List.forall_mem_cons, List.forall_mem_singleton]
    exact ⟨by decide, isField_markedDigits word⟩
  have capital : String.ofList (Text.uppercase ['.', 'w', 'o', 'r', 'd']) = ".WORD" := by decide
  rw [Line.ofText?_of_fields noSemicolon written isField, capital]
  rfl

theorem lineFeed_not_mem_wordText :
    '\n' ∉ (wordText word).toList ∧ '\r' ∉ (wordText word).toList := by
  constructor
  · intro member
    exact absurd (of_mem_wordText word member) (by decide)
  · intro member
    exact absurd (of_mem_wordText word member) (by decide)

end ListingLine

/-- No instruction takes one operand, so no mnemonic makes such a line one of a table. -/
theorem SourceLine.exists_error_of_single_operand (table : OpcodeTable)
    (mnemonic operand : String) :
    ∃ error, SourceLine.encode table ⟨mnemonic, [operand]⟩ = .error error := by
  cases encoded : SourceLine.encode table ⟨mnemonic, [operand]⟩ with
  | error error => exact ⟨error, rfl⟩
  | ok word =>
      rcases encode_eq_ok_iff.mp encoded with ⟨_, _, _, _, _, _, spelled, _⟩
      cases spelled

/-! ## Listed words -/

namespace Listing

variable {table : OpcodeTable} {word : Word}

theorem wordLine_of_decoded (sayable : table.Sayable) {instruction : Instruction}
    (decoded : Instruction.ofWord? table word = some instruction) :
    Line.ofText? (wordLine table word) = some (.instruction instruction.sourceLine) ∧
      '\n' ∉ (wordLine table word).toList ∧ '\r' ∉ (wordLine table word).toList := by
  rcases Instruction.mem_rows_of_ofWord? decoded with ⟨row, member, mnemonic⟩
  rcases OpcodeTable.sayable_iff.mp sayable row member with ⟨field, capitalized⟩
  rw [← mnemonic] at field capitalized
  rw [wordLine, decoded]
  exact ⟨Instruction.ofText?_text field capitalized, Instruction.lineFeed_not_mem_text field⟩

theorem wordLine_of_undecoded (undecodable : Instruction.ofWord? table word = none) :
    wordLine table word = ListingLine.wordText word := by
  rw [wordLine, undecodable]
  rfl

theorem clean_wordLine (sayable : table.Sayable) (word : Word) :
    '\n' ∉ (wordLine table word).toList ∧ '\r' ∉ (wordLine table word).toList := by
  cases decoded : Instruction.ofWord? table word with
  | none =>
      rw [wordLine_of_undecoded decoded]
      exact ListingLine.lineFeed_not_mem_wordText word
  | some instruction => exact (wordLine_of_decoded sayable decoded).2

end Listing

/-! ## Runs over listed words -/

namespace Assembler

variable {assembler : Assembler}

theorem run_of_listed (sayable : assembler.table.Sayable) (words : List Word) (first : Nat) :
    assembler.words (words.map (Listing.wordLine assembler.table)) =
        words.filter (fun word => (Instruction.ofWord? assembler.table word).isSome) ∧
      (assembler.diagnosticsFrom first
          (words.map (Listing.wordLine assembler.table))).map (·.line) =
        ((words.zipIdx first).filter fun entry =>
          (Instruction.ofWord? assembler.table entry.1).isNone).map (·.2) ∧
      assembler.terminates (words.map (Listing.wordLine assembler.table)) = false := by
  -- Any first number will do: the lines behind the first are numbered from the next one on.
  induction words generalizing first with
  | nil => exact ⟨rfl, rfl, rfl⟩
  | cons word rest induction =>
      rcases induction (first + 1) with ⟨sameWords, sameLines, unterminated⟩
      cases decoded : Instruction.ofWord? assembler.table word with
      | some instruction =>
          have read := (Listing.wordLine_of_decoded sayable decoded).1
          have continues : ¬assembler.Stops (Listing.wordLine assembler.table word) := by
            simp [Stops, read]
          rcases OpcodeTable.ofText?_of_ok first read (Instruction.encode_sourceLine decoded) with
            ⟨found, noDiagnostic⟩
          rw [List.map_cons, words_cons_of_some continues found,
            diagnosticsFrom_cons_of_none continues noDiagnostic, terminates_cons continues,
            sameWords, sameLines, unterminated]
          simp [decoded]
      | none =>
          have read := ListingLine.ofText?_wordText word
          rw [← Listing.wordLine_of_undecoded decoded] at read
          have continues : ¬assembler.Stops (Listing.wordLine assembler.table word) := by
            simp [Stops, read]
          rcases SourceLine.exists_error_of_single_operand assembler.table ".WORD" _ with
            ⟨error, failed⟩
          rcases OpcodeTable.ofText?_of_error first read failed with ⟨noWord, diagnostic⟩
          rw [List.map_cons, words_cons_of_none continues noWord,
            diagnosticsFrom_cons_of_some continues diagnostic, terminates_cons continues,
            sameWords, List.map_cons, sameLines, unterminated]
          simp [decoded]

/-- The listing of any words is assembled into those of them that decode by the table, and each of
the others has a diagnostic. The directive that stands for it is no instruction of any table, not
even of one with the directive among its mnemonics. -/
theorem listing_keeps_decoded (assembler : Assembler) (image : HexImage)
    (sayable : assembler.table.Sayable)
    (room : (image.words.filter fun word =>
      (Instruction.ofWord? assembler.table word).isSome).length ≤ assembler.config.capacity) :
    (∃ diagnostics : Array Diagnostic,
      (assembler.runText (Listing.ofImage image assembler.table).text).outcome =
          .ok {
            image := {
              isa := assembler.table.isa
              capacity := assembler.config.capacity
              words := (image.words.filter fun word =>
                (Instruction.ofWord? assembler.table word).isSome).toArray }
            diagnostics
            terminated := false } ∧
        diagnostics.size = (Listing.ofImage image assembler.table).undecoded ∧
        diagnostics.toList.map (·.line) =
          (image.words.zipIdx.filter fun entry =>
            (Instruction.ofWord? assembler.table entry.1).isNone).map (·.2 + 1)) ∧
    (∀ (table : OpcodeTable) (word : Word), ∃ line error,
      Line.ofText? (ListingLine.wordText word) = some (.instruction line) ∧
        SourceLine.encode table line = .error error) ∧
    ∀ isa : Isa, isa.builtin.Sayable := by
  have cut := Listing.lines_text image assembler.table
    fun word _ => Listing.clean_wordLine sayable word
  rcases run_of_listed sayable image.words 1 with ⟨sameWords, sameLines, unterminated⟩
  have lines : (assembler.diagnosticsFrom 1
      (image.words.map (Listing.wordLine assembler.table))).map (·.line) =
        (image.words.zipIdx.filter fun entry =>
          (Instruction.ofWord? assembler.table entry.1).isNone).map (·.2 + 1) := by
    rw [sameLines, List.zipIdx_succ, List.filter_map, List.map_map]
    rfl
  have count : (image.words.zipIdx.filter fun entry =>
      (Instruction.ofWord? assembler.table entry.1).isNone).length =
        (Listing.ofImage image assembler.table).undecoded := by
    rw [Listing.undecoded_eq_countP, ← List.countP_eq_length_filter]
    conv => rhs; rw [← List.zipIdx_map_fst 0 image.words, List.countP_map]
    rfl
  refine ⟨⟨(assembler.diagnosticsFrom 1
    (image.words.map (Listing.wordLine assembler.table))).toArray, ?_, ?_, lines⟩, ?_,
    Isa.sayable_builtin⟩
  · rw [runText, cut, runLines_outcome, sameWords, unterminated, if_pos room]
  · rw [List.size_toArray, ← count, ← List.length_map (·.line), lines, List.length_map]
  · intro table word
    rcases SourceLine.exists_error_of_single_operand table ".WORD" _ with ⟨error, failed⟩
    exact ⟨_, error, ListingLine.ofText?_wordText word, failed⟩

/-- The words of two instructions, one of which has the directive as its mnemonic, and between them
a word with a stray bit and a word that is too wide. -/
theorem listing_keeps_decoded_directive :
    ∃ table, OpcodeTable.ofRows .binary
        [⟨".word", 1, .registerPair⟩, ⟨"jump", 2, .registerPair⟩] = .ok table ∧
      (Listing.ofImage ⟨.binary, [0x0BA0, 0x0801, 0x12345, 0x1000]⟩ table).text =
        ".WORD R3, R5\n.word 0x801\n.word 0x12345\nJUMP R0, R0\n" ∧
      ∃ diagnostics : Array Diagnostic,
        ((withTable ⟨.ternary, 2, true⟩ table).runText
          (Listing.ofImage ⟨.binary, [0x0BA0, 0x0801, 0x12345, 0x1000]⟩ table).text).outcome =
            .ok ⟨⟨.binary, 2, #[0x0BA0, 0x1000]⟩, diagnostics, false⟩ ∧
        diagnostics.toList.map (·.line) = [2, 3] := by
  let words : List Word := [0x0BA0, 0x0801, 0x12345, 0x1000]
  have checked : ∃ table ∈ (OpcodeTable.ofRows .binary
      [⟨".word", 1, .registerPair⟩, ⟨"jump", 2, .registerPair⟩]).toOption,
      table.isa = .binary ∧
        (∀ row ∈ table.rows,
          Text.IsField row.mnemonic.toList ∧ Text.IsCapitalized row.mnemonic.toList) ∧
        (Listing.ofImage ⟨.binary, words⟩ table).text =
          ".WORD R3, R5\n.word 0x801\n.word 0x12345\nJUMP R0, R0\n" ∧
        words.filter (fun word => (Instruction.ofWord? table word).isSome) = [0x0BA0, 0x1000] ∧
        (words.zipIdx.filter fun entry =>
          (Instruction.ofWord? table entry.1).isNone).map (·.2 + 1) = [2, 3] := by
    decide +kernel
  rcases checked with ⟨table, found, isa, fields, written, kept, lines⟩
  have made : OpcodeTable.ofRows .binary
      [⟨".word", 1, .registerPair⟩, ⟨"jump", 2, .registerPair⟩] = .ok table :=
    toOption_eq_some_iff.mp found
  have room : (words.filter fun word => (Instruction.ofWord? table word).isSome).length ≤ 2 := by
    rw [kept]
    decide
  rcases (listing_keeps_decoded (withTable ⟨.ternary, 2, true⟩ table) ⟨.binary, words⟩
    (OpcodeTable.sayable_iff.mpr fields) room).1 with ⟨diagnostics, outcome, _, numbers⟩
  refine ⟨table, made, written, diagnostics, ?_, ?_⟩
  · refine Eq.trans outcome ?_
    change Except.ok (Assembly.mk ⟨table.isa, 2, (words.filter fun word =>
      (Instruction.ofWord? table word).isSome).toArray⟩ diagnostics false) = _
    rw [kept, isa]
  · exact numbers.trans lines

end Assembler

end TwinIsa
