import TwinIsa.Proofs.Immediate
import TwinIsa.Proofs.ReportedText
import TwinIsa.Proofs.Text.LetterCase

/-!
Assembling is blind to the case of ASCII letters. Each reader is compared with itself on the token in
lower case: it comes to the same value or to the same error, which then quotes the token in lower
case. So a line in lower case is the same line with its operands in lower case, and two lines with
one lower case are the same up to what their errors quote.
-/

namespace TwinIsa

def LineError.toLower : LineError → LineError
  | unknownMnemonic mnemonic => unknownMnemonic mnemonic
  | operandCount mnemonic expected found => operandCount mnemonic expected found
  | malformedRegister token => malformedRegister token.toLower
  | registerOutOfRange token greatest => registerOutOfRange token.toLower greatest
  | malformedLiteral token => malformedLiteral token.toLower
  | immediateOutOfRange value least greatest => immediateOutOfRange value least greatest

/-! ## Registers -/

namespace Register

theorem isLetter_toLower (character : Char) : isLetter character.toLower = isLetter character :=
  Text.apply_toLower (by decide) character

theorem number?_toLower (token : List Char) :
    number? (token.map Char.toLower) = number? token := by
  cases token with
  | nil => rfl
  | cons letter digits =>
      rw [List.map_cons, number?, isLetter_toLower, Numeral.read?_toLower, number?]

theorem read_toLower (layout : Layout) (token : String) :
    read layout token.toLower = (read layout token).mapError LineError.toLower := by
  rw [read, Text.toList_toLower, number?_toLower, read]
  cases number? token.toList with
  | none => rfl
  | some register =>
      dsimp only
      rw [mapError_ite]
      rfl

end Register

/-! ## Literals -/

namespace Literal

theorem splitSign_toLower (token : List Char) :
    splitSign (token.map Char.toLower) =
      ((splitSign token).1, (splitSign token).2.map Char.toLower) := by
  cases token with
  | nil => rfl
  | cons head body =>
      by_cases minus : head = '-'
      · cases minus
        rfl
      · by_cases plus : head = '+'
        · cases plus
          rfl
        · have noMinus : head.toLower ≠ '-' := (Text.toLower_eq_iff (by decide) head).not.mpr minus
          have noPlus : head.toLower ≠ '+' := (Text.toLower_eq_iff (by decide) head).not.mpr plus
          simp [splitSign, minus, plus, noMinus, noPlus]

theorem isMark_of_toLower {character : Char}
    (isMark : character.toLower = 'x' ∨ character.toLower = 'X') :
    character = 'x' ∨ character = 'X' := by
  have blind : decide (character.toLower = 'x' ∨ character.toLower = 'X') =
      decide (character = 'x' ∨ character = 'X') :=
    @Text.apply_toLower _ (fun mark => decide (mark = 'x' ∨ mark = 'X')) (by decide) character
  exact (decide_eq_decide.mp blind).mp isMark

theorem magnitude?_toLower (bareHex : Bool) (body : List Char) :
    magnitude? bareHex (body.map Char.toLower) = magnitude? bareHex body := by
  by_cases marked : ∃ mark digits, body = '0' :: mark :: digits ∧ (mark = 'x' ∨ mark = 'X')
  · rcases marked with ⟨mark, digits, rfl, rfl | rfl⟩
    · exact Numeral.read?_toLower 16 digits
    · exact Numeral.read?_toLower 16 digits
  · have unmarked {mark : Char} (isMark : mark = 'x' ∨ mark = 'X') (digits : List Char) :
        body ≠ '0' :: mark :: digits := by
      rintro rfl
      exact marked ⟨mark, digits, rfl, isMark⟩
    have stillUnmarked {mark : Char} (isMark : mark = 'x' ∨ mark = 'X') (digits : List Char) :
        body.map Char.toLower ≠ '0' :: mark :: digits := by
      intro lowered
      rcases List.map_eq_cons_iff.mp lowered with ⟨zero, rest, rfl, isZero, lowered⟩
      rcases List.map_eq_cons_iff.mp lowered with ⟨letter, others, rfl, rfl, _⟩
      rw [Text.toLower_eq_iff (by decide)] at isZero
      cases isZero
      exact unmarked (isMark_of_toLower isMark) others rfl
    rw [magnitude?.eq_3 _ _ (stillUnmarked (.inl rfl)) (stillUnmarked (.inr rfl)),
      magnitude?.eq_3 _ _ (unmarked (.inl rfl)) (unmarked (.inr rfl)),
      Numeral.all_isDigit_toLower, Numeral.read?_toLower, Numeral.read?_toLower]

theorem read?_toLower (bareHex : Bool) (token : List Char) :
    read? bareHex (token.map Char.toLower) = read? bareHex token := by
  rw [read?, splitSign_toLower]
  dsimp only
  rw [magnitude?_toLower, read?]

theorem read_toLower (bareHex : Bool) (token : String) :
    read bareHex token.toLower = (read bareHex token).mapError LineError.toLower := by
  rw [read, Text.toList_toLower, read?_toLower, read]
  cases read? bareHex token.toList <;> rfl

end Literal

/-! ## Operands -/

namespace Operands

theorem readRegisterPair_toLower (layout : Layout) (first second : String) :
    readRegisterPair layout first.toLower second.toLower =
      (readRegisterPair layout first second).mapError LineError.toLower := by
  simp only [readRegisterPair, Register.read_toLower, mapError_bind]
  rfl

theorem readRegisterImmediate_toLower (layout : Layout) (register immediate : String) :
    readRegisterImmediate layout register.toLower immediate.toLower =
      (readRegisterImmediate layout register immediate).mapError LineError.toLower := by
  simp only [readRegisterImmediate, Register.read_toLower, Literal.read_toLower, mapError_bind]
  rfl

theorem readMemory_toLower (layout : Layout) (first second offset : String) :
    readMemory layout first.toLower second.toLower offset.toLower =
      (readMemory layout first second offset).mapError LineError.toLower := by
  simp only [readMemory, Register.read_toLower, Literal.read_toLower, mapError_bind]
  rfl

theorem read?_toLower (layout : Layout) (shape : Shape) (tokens : List String) :
    read? layout shape (tokens.map String.toLower) =
      (read? layout shape tokens).map (Except.mapError LineError.toLower) := by
  by_cases counted : tokens.length = shape.arity
  · cases shape with
    | bare =>
        rcases List.length_eq_zero_iff.mp counted with rfl
        rfl
    | registerPair =>
        rcases List.length_eq_two.mp counted with ⟨first, second, rfl⟩
        exact congrArg some (readRegisterPair_toLower layout first second)
    | registerImmediate kind =>
        rcases List.length_eq_two.mp counted with ⟨register, immediate, rfl⟩
        exact congrArg some (readRegisterImmediate_toLower layout register immediate)
    | memory kind =>
        rcases List.length_eq_three.mp counted with ⟨first, second, offset, rfl⟩
        exact congrArg some (readMemory_toLower layout first second offset)
  · have unread {others : List String} (length : others.length = tokens.length) :
        read? layout shape others = none := by
      rw [← Option.not_isSome_iff_eq_none, read?_isSome_iff, length]
      exact counted
    rw [unread (List.length_map _), unread rfl]
    rfl

theorem mapError_bits (layout : Layout) (shape : Shape) (operands : Operands) :
    (operands.bits layout shape).mapError LineError.toLower = operands.bits layout shape := by
  unfold bits
  split
  next kind number _ _ =>
    cases encoded : kind.encode number with
    | ok field => rfl
    | error error =>
        rcases ImmediateKind.encode_eq_error_iff.mp encoded with ⟨_, rfl⟩
        rfl
  next => rfl

end Operands

/-! ## Lines -/

namespace SourceLine

/-- The line with its operands in lower case. Its mnemonic is in capitals already. -/
def lowerOperands (line : SourceLine) : SourceLine :=
  { line with operands := line.operands.map String.toLower }

theorem encode_lowerOperands (table : OpcodeTable) (line : SourceLine) :
    line.lowerOperands.encode table = (line.encode table).mapError LineError.toLower := by
  rw [encode, lowerOperands, encode]
  dsimp only
  cases table.rowAndShape? line.mnemonic with
  | none => rfl
  | some entry =>
      dsimp only
      rw [Operands.read?_toLower, List.length_map]
      cases Operands.read? table.isa.layout entry.2 line.operands with
      | none => rfl
      | some outcome =>
          rw [Option.map_some]
          dsimp only
          simp only [mapError_bind, Operands.mapError_bits]
          rfl

theorem toLower_text_lowerOperands (line : SourceLine) :
    line.lowerOperands.text.toLower = line.text.toLower := by
  have twice (character : Char) : character.toLower.toLower = character.toLower :=
    @Text.apply_toLower _ Char.toLower (by decide) character
  apply String.toList_injective
  rw [Text.toList_toLower, toList_text, Text.toList_toLower, toList_text, lowerOperands,
    List.map_append, List.map_append, List.map_flatMap, List.map_flatMap, List.flatMap_map,
    List.flatMap_map, List.flatMap_map]
  simp only [Text.toList_toLower, List.map_cons, List.map_map, Function.comp_def, twice]

theorem encode_cases {line other : SourceLine} (same : line.lowerOperands = other.lowerOperands)
    (table : OpcodeTable) :
    (∃ word, line.encode table = .ok word ∧ other.encode table = .ok word) ∨
      ∃ error otherError, line.encode table = .error error ∧
        other.encode table = .error otherError ∧ error.toLower = otherError.toLower := by
  have alike : (line.encode table).mapError LineError.toLower =
      (other.encode table).mapError LineError.toLower := by
    rw [← encode_lowerOperands, same, encode_lowerOperands]
  cases encoded : line.encode table with
  | ok word =>
      cases otherEncoded : other.encode table with
      | ok otherWord =>
          rw [encoded, otherEncoded] at alike
          cases alike
          exact .inl ⟨word, rfl, rfl⟩
      | error otherError =>
          rw [encoded, otherEncoded] at alike
          contradiction
  | error error =>
      cases otherEncoded : other.encode table with
      | ok otherWord =>
          rw [encoded, otherEncoded] at alike
          contradiction
      | error otherError =>
          rw [encoded, otherEncoded] at alike
          exact .inr ⟨error, otherError, rfl, rfl, Except.error.inj alike⟩

end SourceLine

namespace Line

theorem code_toLower (text : List Char) :
    code (text.map Char.toLower) = (code text).map Char.toLower := by
  have blind {mark : Char} (noLetter : mark.isAlpha = false) :
      (· != mark) ∘ Char.toLower = (· != mark) := funext (Text.bne_toLower noLetter)
  rw [code, List.takeWhile_map, blind (by decide), List.filter_map, blind (by decide), code]

theorem isTerminator_toLower_iff (text : List Char) :
    IsTerminator (text.map Char.toLower) ↔ IsTerminator text := by
  have semicolon (character : Char) : character.toLower = ';' ↔ character = ';' :=
    Text.toLower_eq_iff (by decide) character
  rw [← trim_eq_terminatorText_iff, ← trim_eq_terminatorText_iff,
    Text.trim_map Text.isBlank_toLower, terminatorText]
  simp only [List.map_eq_cons_iff, List.map_eq_nil_iff, semicolon]
  constructor
  · rintro ⟨_, _, whole, rfl, _, _, rfl, rfl, _, _, rfl, rfl, rfl⟩
    exact whole
  · intro whole
    exact ⟨_, _, whole, rfl, _, _, rfl, rfl, _, _, rfl, rfl, rfl⟩

def lowerOperands : Line → Line
  | terminator => terminator
  | instruction line => instruction line.lowerOperands

theorem ofText?_toLower (text : String) :
    ofText? text.toLower = (ofText? text).map lowerOperands := by
  have lowered := Text.toList_toLower text
  by_cases isTerminator : IsTerminator text.toList
  · have stillTerminator : IsTerminator text.toLower.toList := by
      rwa [lowered, isTerminator_toLower_iff]
    rw [ofText?_eq_terminator_iff.mpr isTerminator, ofText?_eq_terminator_iff.mpr stillTerminator]
    rfl
  · have stillNone : ¬IsTerminator text.toLower.toList := by
      rwa [lowered, isTerminator_toLower_iff]
    rw [ofText?_of_not_terminator isTerminator, ofText?_of_not_terminator stillNone, lowered,
      code_toLower, Text.fields_toLower]
    cases Text.fields (code text.toList) with
    | nil => rfl
    | cons first others =>
        have operands : (others.map (List.map Char.toLower)).map String.ofList =
            (others.map String.ofList).map String.toLower := by
          rw [List.map_map, List.map_map]
          apply List.map_congr_left
          intro operand _
          apply String.toList_injective
          simp [Text.toList_toLower]
        rw [List.map_cons, SourceLine.ofFields?, Text.uppercase_toLower, operands]
        rfl

theorem ofText?_cases {text other : String} (same : text.toLower = other.toLower) :
    (ofText? text = none ∧ ofText? other = none) ∨
      (ofText? text = some .terminator ∧ ofText? other = some .terminator) ∨
      ∃ line otherLine, ofText? text = some (.instruction line) ∧
        ofText? other = some (.instruction otherLine) ∧
        line.lowerOperands = otherLine.lowerOperands := by
  have alike : (ofText? text).map lowerOperands = (ofText? other).map lowerOperands := by
    rw [← ofText?_toLower, same, ofText?_toLower]
  rcases read : ofText? text with _ | _ | line <;>
    rcases otherRead : ofText? other with _ | _ | otherLine <;>
    simp [read, otherRead, lowerOperands] at alike ⊢
  exact alike

end Line

/-! ## Runs -/

def Diagnostic.toLower (diagnostic : Diagnostic) : Diagnostic :=
  ⟨diagnostic.line, diagnostic.text.toLower, diagnostic.error.toLower⟩

inductive SameOutcome : Except AssemblyError Assembly → Except AssemblyError Assembly → Prop
  | error (error : AssemblyError) : SameOutcome (.error error) (.error error)
  | ok {assembly other : Assembly} (image : assembly.image = other.image)
      (diagnostics : assembly.diagnostics.toList.map Diagnostic.toLower =
        other.diagnostics.toList.map Diagnostic.toLower)
      (terminated : assembly.terminated = other.terminated) :
      SameOutcome (.ok assembly) (.ok other)

structure Progress.Alike (progress other : Progress) : Prop where
  image : progress.image = other.image
  diagnostics : progress.diagnostics.toList.map Diagnostic.toLower =
    other.diagnostics.toList.map Diagnostic.toLower

namespace Progress.Alike

variable {progress other : Progress} (alike : progress.Alike other)
include alike

theorem finish (isa : Isa) (terminated : Bool) :
    SameOutcome (progress.finish isa terminated).outcome (other.finish isa terminated).outcome :=
  .ok alike.image alike.diagnostics rfl

theorem stored (isa : Isa) (text otherText : String) (word : Word) :
    (progress.stored isa text word).Alike (other.stored isa otherText word) := by
  refine ⟨?_, alike.diagnostics⟩
  rw [Progress.stored, Progress.stored, alike.image]

theorem skip {diagnostic otherDiagnostic : Diagnostic}
    (same : diagnostic.toLower = otherDiagnostic.toLower) :
    (progress.skip diagnostic).Alike (other.skip otherDiagnostic) := by
  refine ⟨alike.image, ?_⟩
  simp only [Progress.skip, Array.toList_push, List.map_append, List.map_singleton,
    alike.diagnostics, same]

end Progress.Alike

namespace Assembler

/-- Runs that are alike so far stay so over lines that differ only in case. -/
theorem runFrom_alike (assembler : Assembler) {reads others : List (Except InputError String)}
    (same : List.Forall₂ (fun read other => read.map String.toLower = other.map String.toLower)
      reads others)
    {progress other : Progress} (alike : progress.Alike other) (number : Nat) :
    SameOutcome (assembler.runFrom progress number reads).outcome
      (assembler.runFrom other number others).outcome := by
  induction same generalizing progress other number with
  | nil => exact alike.finish assembler.config.isa false
  | @cons read otherRead reads others sameRead _ induction =>
      -- Lower case keeps what cannot be read apart from what can.
      rcases read with error | text <;> rcases otherRead with otherError | otherText
      · cases sameRead
        exact .error (.input error)
      · contradiction
      · contradiction
      · rw [runFrom, runFrom]
        rcases Line.ofText?_cases (Except.ok.inj sameRead) with ⟨blank, otherBlank⟩ |
          ⟨terminator, otherTerminator⟩ | ⟨line, otherLine, instruction, otherInstruction, sameLine⟩
        · rw [blank, otherBlank]
          exact induction alike (number + 1)
        · rw [terminator, otherTerminator]
          dsimp only
          split
          next =>
            exact @Progress.Alike.finish (progress.log (.terminatorReached number))
              (other.log (.terminatorReached number)) ⟨alike.image, alike.diagnostics⟩
              assembler.config.isa true
          next => exact induction alike (number + 1)
        · rw [instruction, otherInstruction]
          dsimp only
          have sameText : line.text.toLower = otherLine.text.toLower := by
            rw [← SourceLine.toLower_text_lowerOperands, sameLine,
              SourceLine.toLower_text_lowerOperands]
          rcases SourceLine.encode_cases sameLine assembler.table with
            ⟨word, encoded, otherEncoded⟩ | ⟨error, otherError, encoded, otherEncoded, sameError⟩
          · rw [encoded, otherEncoded]
            dsimp only
            -- The images are the same, so either both have room for the word or none has.
            by_cases room : progress.image.size < progress.image.capacity
            · have otherRoom : other.image.size < other.image.capacity := alike.image ▸ room
              rw [Progress.store_of_room _ _ _ room, Progress.store_of_room _ _ _ otherRoom]
              exact induction (alike.stored assembler.config.isa line.text otherLine.text word)
                (number + 1)
            · have otherFull : ¬other.image.size < other.image.capacity := alike.image ▸ room
              rw [Progress.store_of_full _ _ _ room, Progress.store_of_full _ _ _ otherFull,
                alike.image]
              exact .error _
          · rw [encoded, otherEncoded]
            apply induction (alike.skip _) (number + 1)
            rw [Diagnostic.toLower, Diagnostic.toLower, sameText, sameError]

theorem runReads_alike (assembler : Assembler) {reads others : List (Except InputError String)}
    (same : List.Forall₂ (fun read other => read.map String.toLower = other.map String.toLower)
      reads others) :
    SameOutcome (assembler.runReads reads).outcome (assembler.runReads others).outcome :=
  assembler.runFrom_alike same ⟨rfl, rfl⟩ 1

theorem runLines_alike (assembler : Assembler) {lines others : List String}
    (same : List.Forall₂ (fun line other => line.toLower = other.toLower) lines others) :
    SameOutcome (assembler.runLines lines).outcome (assembler.runLines others).outcome := by
  apply runReads_alike
  rw [List.forall₂_map_left_iff, List.forall₂_map_right_iff]
  exact same.imp fun _ _ => congrArg Except.ok

/-- Lines that differ only in the case of ASCII letters are all blank, all terminators or all
instructions, with one word or one kind of error, which differ only in the case of the token that
they quote. Sources that differ so have one image, or are given up for one reason, and their
diagnostics are those of the same lines. -/
theorem blind_to_case (assembler : Assembler) :
    (∀ text other : String, text.toLower = other.toLower →
      (Line.ofText? text = none ∧ Line.ofText? other = none) ∨
      (Line.ofText? text = some .terminator ∧ Line.ofText? other = some .terminator) ∨
      ∃ line otherLine : SourceLine, Line.ofText? text = some (.instruction line) ∧
        Line.ofText? other = some (.instruction otherLine) ∧
        ((∃ word, line.encode assembler.table = .ok word ∧
            otherLine.encode assembler.table = .ok word) ∨
          ∃ error otherError, line.encode assembler.table = .error error ∧
            otherLine.encode assembler.table = .error otherError ∧
            error.toLower = otherError.toLower)) ∧
    ∀ source other : String, source.toLower = other.toLower →
      (∃ error, (assembler.runText source).outcome = .error error ∧
        (assembler.runText other).outcome = .error error) ∨
      ∃ assembly otherAssembly, (assembler.runText source).outcome = .ok assembly ∧
        (assembler.runText other).outcome = .ok otherAssembly ∧
        assembly.image = otherAssembly.image ∧
        assembly.diagnostics.toList.map (·.line) = otherAssembly.diagnostics.toList.map (·.line) ∧
        assembly.diagnostics.toList.map Diagnostic.toLower =
          otherAssembly.diagnostics.toList.map Diagnostic.toLower ∧
        assembly.terminated = otherAssembly.terminated := by
  constructor
  · intro text other same
    rcases Line.ofText?_cases same with blank | terminator |
      ⟨line, otherLine, instruction, otherInstruction, sameLine⟩
    · exact .inl blank
    · exact .inr (.inl terminator)
    · exact .inr (.inr ⟨line, otherLine, instruction, otherInstruction,
        SourceLine.encode_cases sameLine assembler.table⟩)
  · intro source other same
    have alike := assembler.runLines_alike (Text.forall₂_lines same)
    rw [← runText, ← runText] at alike
    generalize (assembler.runText source).outcome = outcome at alike
    generalize (assembler.runText other).outcome = otherOutcome at alike
    cases alike with
    | error error => exact .inl ⟨error, rfl, rfl⟩
    | ok image diagnostics terminated =>
        have lines := congrArg (List.map Diagnostic.line) diagnostics
        rw [List.map_map, List.map_map] at lines
        exact .inr ⟨_, _, rfl, rfl, image, lines, diagnostics, terminated⟩

/-- A program and the same in other letters: a mnemonic that is longer in capitals, a hexadecimal
numeral without its mark, and a register that there is not, which is quoted as it stands. -/
theorem blind_to_case_quoted :
    (∃ line otherLine error otherError, Line.ofText? "lui Q9, aB" = some (.instruction line) ∧
      Line.ofText? "LUI q9, Ab" = some (.instruction otherLine) ∧
      line.encode Isa.ternary.builtin = .error error ∧
      otherLine.encode Isa.ternary.builtin = .error otherError ∧
      error.toLower = otherError.toLower) ∧
    ∃ assembly otherAssembly,
      ((builtin (.standard .ternary)).runText "straße r1\nlui R4 +a ; up\nli r1 Xg").outcome =
        .ok assembly ∧
      ((builtin (.standard .ternary)).runText "StrAßE R1\nLUI r4 +A ; UP\nLi R1 xG").outcome =
        .ok otherAssembly ∧
      assembly.image = otherAssembly.image ∧
      assembly.diagnostics.toList.map (·.line) = otherAssembly.diagnostics.toList.map (·.line) := by
  rcases blind_to_case (builtin (.standard .ternary)) with ⟨ofLines, ofSources⟩
  constructor
  · have same : "lui Q9, aB".toLower = "LUI q9, Ab".toLower := by
      apply String.toList_injective
      rw [Text.toList_toLower, Text.toList_toLower]
      decide
    have read : Line.ofText? "lui Q9, aB" = some (.instruction ⟨"LUI", ["Q9", "aB"]⟩) := by
      decide +kernel
    have failed : (SourceLine.mk "LUI" ["Q9", "aB"]).encode Isa.ternary.builtin =
        .error (.registerOutOfRange "Q9" 8) := by decide +kernel
    rcases ofLines _ _ same with ⟨blank, _⟩ | ⟨terminator, _⟩ |
      ⟨line, otherLine, instruction, otherInstruction, ⟨word, encoded, _⟩ | ⟨error, otherError, fails⟩⟩
    · rw [read] at blank
      contradiction
    · rw [read] at terminator
      contradiction
    · rw [read] at instruction
      cases instruction
      exact absurd (failed.symm.trans encoded) nofun
    · exact ⟨line, otherLine, error, otherError, instruction, otherInstruction, fails⟩
  · have same : "straße r1\nlui R4 +a ; up\nli r1 Xg".toLower =
        "StrAßE R1\nLUI r4 +A ; UP\nLi R1 xG".toLower := by
      apply String.toList_injective
      rw [Text.toList_toLower, Text.toList_toLower]
      decide
    have succeeds : ((builtin (.standard .ternary)).runText
        "straße r1\nlui R4 +a ; up\nli r1 Xg").outcome.toBool = true := by decide +kernel
    rcases ofSources _ _ same with ⟨error, failed, _⟩ |
      ⟨assembly, otherAssembly, outcome, otherOutcome, image, lines, _⟩
    · rw [failed] at succeeds
      contradiction
    · exact ⟨assembly, otherAssembly, outcome, otherOutcome, image, lines⟩

end Assembler

end TwinIsa
