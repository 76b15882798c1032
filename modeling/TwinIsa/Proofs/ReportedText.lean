import TwinIsa.Proofs.EventLog
import TwinIsa.Proofs.HexText
import TwinIsa.Proofs.LineContent

/-!
What a run reports of a line against what the reported text says. A line is reported in its shortest
spelling, with one space between fields. Since no field has a blank, a comma or a semicolon in it and
capitals stay capitals, this spelling is read as the line itself, so it has the word or the error
that was reported with it.
-/

namespace TwinIsa

/-! ## The shortest spelling of a line -/

namespace SourceLine

variable {line : SourceLine}

theorem toList_text (line : SourceLine) :
    line.text.toList =
      line.mnemonic.toList ++ (line.operands.map String.toList).flatMap (' ' :: ·) := by
  rw [text, toList_foldl_separated, List.flatMap_map]
  rfl

theorem ofText?_text (fields : ∀ field ∈ line.fields, Text.IsField field.toList)
    (capitalized : Text.IsCapitalized line.mnemonic.toList) :
    Line.ofText? line.text = some (.instruction line) := by
  have solid : ∀ field ∈ line.mnemonic.toList :: line.operands.map String.toList,
      Text.IsField field := by
    rw [SourceLine.fields, List.forall_mem_cons] at fields
    rw [List.forall_mem_cons, List.forall_mem_map]
    exact fields
  have clean : ∀ character ∈ line.text.toList, character ≠ ',' ∧ character ≠ ';' := by
    intro character member
    rw [toList_text, List.mem_append, List.mem_flatMap] at member
    rcases member with inMnemonic | ⟨field, inOperands, inField⟩
    · exact ((solid _ List.mem_cons_self).2 character inMnemonic).2
    · rcases List.mem_cons.mp inField with rfl | inField
      · decide
      · exact ((solid field (List.mem_cons_of_mem _ inOperands)).2 character inField).2
  have noSemicolon : ';' ∉ line.text.toList := fun member => (clean ';' member).2 rfl
  have kept : line.text.toList.filter (· != ',') = line.text.toList :=
    List.filter_eq_self.mpr fun character member => bne_iff_ne.mpr (clean character member).1
  rw [Line.ofText?_of_fields noSemicolon (kept.trans line.toList_text) solid, capitalized,
    String.ofList_toList, List.map_map]
  simp [Function.comp_def]

end SourceLine

theorem Line.ofText?_text {text : String} {line : SourceLine}
    (read : ofText? text = some (.instruction line)) :
    ofText? line.text = some (.instruction line) :=
  SourceLine.ofText?_text (fun _ => isField_of_mem_fields read) (mnemonic_of_ofText? read).2

/-! ## Reports of single lines -/

namespace OpcodeTable

variable {table : OpcodeTable} {number address : Nat} {text : String}

theorem exists_of_diagnosticOfText? {diagnostic : Diagnostic}
    (found : table.diagnosticOfText? number text = some diagnostic) :
    ∃ line error, Line.ofText? text = some (.instruction line) ∧
      line.encode table = .error error ∧ diagnostic = ⟨number, line.text, error⟩ := by
  rcases table.instruction_cases text with noInstruction |
    ⟨line, read, ⟨error, encoded⟩ | ⟨word, encoded⟩⟩
  · rw [(ofText?_of_no_instruction number table noInstruction).2] at found
    contradiction
  · rw [(ofText?_of_error number read encoded).2, Option.some.injEq] at found
    exact ⟨line, error, read, encoded, found.symm⟩
  · rw [(ofText?_of_ok number read encoded).2] at found
    contradiction

theorem exists_of_eventOfText? {event : Event}
    (found : table.eventOfText? number address text = some event) :
    ∃ line, Line.ofText? text = some (.instruction line) ∧
      ((∃ error, line.encode table = .error error ∧
          event = .skipped ⟨number, line.text, error⟩) ∨
        ∃ word, line.encode table = .ok word ∧
          event = .encoded address (table.isa.formatWord word) line.text) := by
  rcases table.instruction_cases text with noInstruction |
    ⟨line, read, ⟨error, encoded⟩ | ⟨word, encoded⟩⟩
  · rw [eventOfText?_of_no_instruction _ _ noInstruction] at found
    contradiction
  · rw [eventOfText?_of_error _ _ read encoded, Option.some.injEq] at found
    exact ⟨line, read, .inl ⟨error, encoded, found.symm⟩⟩
  · rw [eventOfText?_of_ok _ _ read encoded, Option.some.injEq] at found
    exact ⟨line, read, .inr ⟨word, encoded, found.symm⟩⟩

end OpcodeTable

def Diagnostic.Recurs (table : OpcodeTable) (diagnostic : Diagnostic) : Prop :=
  ∃ line, Line.ofText? diagnostic.text = some (.instruction line) ∧
    line.encode table = .error diagnostic.error

theorem Diagnostic.Recurs.of_error {table : OpcodeTable} {text : String} {line : SourceLine}
    {error : LineError} (read : Line.ofText? text = some (.instruction line))
    (encoded : line.encode table = .error error) (number : Nat) :
    Recurs table ⟨number, line.text, error⟩ :=
  ⟨line, Line.ofText?_text read, encoded⟩

/-! ## Reports of runs -/

namespace Assembler

variable {assembler : Assembler} {lines : List String}

theorem recurs_of_mem_diagnostics {diagnostic : Diagnostic}
    (member : diagnostic ∈ assembler.table.diagnostics lines) :
    diagnostic.Recurs assembler.table := by
  rcases List.mem_filterMap.mp member with ⟨entry, _, found⟩
  rcases OpcodeTable.exists_of_diagnosticOfText? found with ⟨line, error, read, encoded, rfl⟩
  exact .of_error read encoded _

theorem report_of_mem_lineEvents {event : Event}
    (member : event ∈ assembler.table.lineEvents lines) :
    (∃ diagnostic, event = .skipped diagnostic ∧ diagnostic.Recurs assembler.table) ∨
      ∃ (address : Nat) (word : Word) (line : SourceLine),
        event = .encoded address (assembler.table.isa.formatWord word) line.text ∧
          Line.ofText? line.text = some (.instruction line) ∧
          line.encode assembler.table = .ok word := by
  rcases List.mem_filterMap.mp member with ⟨entry, _, found⟩
  rcases OpcodeTable.exists_of_eventOfText? found with
    ⟨line, read, ⟨error, encoded, rfl⟩ | ⟨word, encoded, rfl⟩⟩
  · exact .inl ⟨_, rfl, .of_error read encoded _⟩
  · exact .inr ⟨_, word, line, rfl, Line.ofText?_text read, encoded⟩

theorem getElem?_of_mem_lineEvents {address : Nat} {word : Word} {text : String}
    (member : .encoded address (assembler.table.isa.formatWord word) text ∈
      assembler.table.lineEvents lines) :
    (assembler.table.words lines)[address]? = some word := by
  have stored : (address, assembler.table.isa.formatWord word) ∈
      (assembler.table.lineEvents lines).filterMap Event.stored? :=
    List.mem_filterMap.mpr ⟨_, member, rfl⟩
  rw [OpcodeTable.filterMap_stored?_lineEvents] at stored
  rcases List.mem_map.mp stored with ⟨⟨other, place⟩, there, same⟩
  rw [Prod.mk.injEq] at same
  rcases same with ⟨rfl, written⟩
  rw [← Isa.eq_of_formatWord_eq written]
  exact List.mem_zipIdx_iff_getElem?.mp there

/-- What a run reports can be had again from the text that is reported, by the same table: each
diagnostic, in the log and in the result, has the error that its own text has, and each word that is
logged is the one that the text logged with it has, which is also the word at its address if there
is an image. -/
theorem reports_recur (assembler : Assembler) (reads : List (Except InputError String)) :
    (∀ text line, Line.ofText? text = some (.instruction line) →
      Line.ofText? line.text = some (.instruction line)) ∧
    (∀ diagnostic, .skipped diagnostic ∈ (assembler.runReads reads).events →
      ∃ line, Line.ofText? diagnostic.text = some (.instruction line) ∧
        line.encode assembler.table = .error diagnostic.error) ∧
    (∀ assembly, (assembler.runReads reads).outcome = .ok assembly →
      ∀ diagnostic ∈ assembly.diagnostics,
        ∃ line, Line.ofText? diagnostic.text = some (.instruction line) ∧
          line.encode assembler.table = .error diagnostic.error) ∧
    ∀ address hex text, .encoded address hex text ∈ (assembler.runReads reads).events →
      ∃ (line : SourceLine) (word : Word), Line.ofText? text = some (.instruction line) ∧
        line.encode assembler.table = .ok word ∧ hex = assembler.table.isa.formatWord word ∧
        (∀ other, assembler.table.isa.formatWord other = hex → other = word) ∧
        ∀ assembly, (assembler.runReads reads).outcome = .ok assembly →
          assembly.image.words[address]? = some word := by
  rcases assembler.exists_ends reads with ⟨lines, rest, _, _, ends⟩
  rcases ends.exists_closes with ⟨closing, events, information, closes⟩
  -- Behind the entries of the lines there is nothing that tells of a line.
  have ofLine {event : Event} (member : event ∈ (assembler.runReads reads).events)
      (level : event.level ≠ .information) : event ∈ assembler.table.lineEvents lines := by
    rw [← Array.mem_toList_iff, events, List.mem_append] at member
    rcases member with inLines | inClosing
    · exact inLines
    · exact absurd (information event inClosing).1 level
  refine ⟨fun text line => Line.ofText?_text, ?_, ?_, ?_⟩
  · intro diagnostic member
    rcases report_of_mem_lineEvents (ofLine member (by simp [Event.level])) with
      ⟨other, same, recurs⟩ | ⟨_, _, _, different, _⟩
    · cases same
      exact recurs
    · contradiction
  · intro assembly succeeded diagnostic member
    rw [succeeded] at closes
    rw [← Array.mem_toList_iff, closes.2.1] at member
    exact recurs_of_mem_diagnostics member
  · intro address hex text member
    have inLines := ofLine member (by simp [Event.level])
    rcases report_of_mem_lineEvents inLines with
      ⟨_, different, _⟩ | ⟨_, word, line, same, read, encoded⟩
    · contradiction
    · cases same
      refine ⟨line, word, read, encoded, rfl, fun other => Isa.eq_of_formatWord_eq, ?_⟩
      intro assembly succeeded
      rw [succeeded] at closes
      rw [← Array.getElem?_toList, closes.1]
      exact getElem?_of_mem_lineEvents inLines

/-- A mnemonic that is longer in capitals, and an operand that is joined where a comma stood. -/
theorem reports_recur_joined :
    .skipped ⟨1, "STRASSE r1 R2", .unknownMnemonic "STRASSE"⟩ ∈
        ((builtin (.standard .ternary)).runReads
          [.ok "straße r1,\u3000,R2;c", .ok "mv r,0 R8"]).events ∧
      .encoded 0 "00080" "MV r0 R8" ∈
        ((builtin (.standard .ternary)).runReads
          [.ok "straße r1,\u3000,R2;c", .ok "mv r,0 R8"]).events ∧
      (∃ line, Line.ofText? "STRASSE r1 R2" = some (.instruction line) ∧
        line.encode Isa.ternary.builtin = .error (.unknownMnemonic "STRASSE")) ∧
      ∃ (line : SourceLine) (word : Word), Line.ofText? "MV r0 R8" = some (.instruction line) ∧
        line.encode Isa.ternary.builtin = .ok word ∧ "00080" = Isa.ternary.formatWord word := by
  rcases reports_recur (builtin (.standard .ternary))
    [.ok "straße r1,\u3000,R2;c", .ok "mv r,0 R8"] with ⟨_, skipped, _, encoded⟩
  have skips : .skipped ⟨1, "STRASSE r1 R2", .unknownMnemonic "STRASSE"⟩ ∈
      ((builtin (.standard .ternary)).runReads
        [.ok "straße r1,\u3000,R2;c", .ok "mv r,0 R8"]).events := by decide +kernel
  have stores : .encoded 0 "00080" "MV r0 R8" ∈
      ((builtin (.standard .ternary)).runReads
        [.ok "straße r1,\u3000,R2;c", .ok "mv r,0 R8"]).events := by decide +kernel
  rcases encoded _ _ _ stores with ⟨line, word, read, encodes, written, _⟩
  exact ⟨skips, stores, skipped _ skips, line, word, read, encodes, written⟩

end Assembler

end TwinIsa
