import Mathlib.Data.List.TakeWhile
import TwinIsa.Instruction
import TwinIsa.Proofs.Text.Cutting
import TwinIsa.Proofs.Text.Numeral
import TwinIsa.Proofs.Text.Uppercase

/-!
Instructions written as lines. A line cannot say every mnemonic: it loses its commas, ends at a
semicolon, and is cut at blanks. Where the mnemonic can be a field, the written line has the fields
of the instruction; operands always can.
-/

namespace TwinIsa

/-! ## What lines say -/

namespace Line

theorem isField_of_mem_fields_code {text field : List Char}
    (member : field ∈ Text.fields (code text)) : Text.IsField field := by
  rcases Text.of_mem_fields member with ⟨nonempty, inside⟩
  refine ⟨nonempty, ?_⟩
  intro character inField
  rcases inside character inField with ⟨notBlank, inCode⟩
  rw [code, List.mem_filter] at inCode
  have notSemicolon := List.mem_takeWhile_imp inCode.1
  exact ⟨notBlank, by simpa using inCode.2, by simpa using notSemicolon⟩

theorem mnemonic_of_ofText? {text : String} {line : SourceLine}
    (read : ofText? text = some (.instruction line)) :
    Text.IsField line.mnemonic.toList ∧ Text.IsCapitalized line.mnemonic.toList := by
  unfold ofText? at read
  split at read
  · simp at read
  · cases cut : Text.fields (code text.toList) with
    | nil => simp [cut, SourceLine.ofFields?] at read
    | cons first others =>
        simp only [cut, SourceLine.ofFields?, Option.map_some, Option.some.injEq,
          instruction.injEq] at read
        subst read
        have inFields : first ∈ Text.fields (code text.toList) := by
          rw [cut]
          exact List.mem_cons_self
        rw [String.toList_ofList]
        exact ⟨Text.isField_uppercase (isField_of_mem_fields_code inFields),
          Text.isCapitalized_uppercase first⟩

theorem ofText?_of_no_semicolon {text : String} (noSemicolon : ';' ∉ text.toList) :
    ofText? text =
      (SourceLine.ofFields? (Text.fields (text.toList.filter (· != ',')))).map instruction := by
  have noTerminator : Text.trim text.toList ≠ terminatorText := by
    intro isTerminator
    apply noSemicolon
    apply Text.mem_of_mem_trim
    rw [isTerminator]
    exact List.mem_cons_self
  have kept : text.toList.takeWhile (· != ';') = text.toList := by
    rw [List.takeWhile_eq_self_iff]
    intro character member
    apply bne_iff_ne.mpr
    rintro rfl
    exact noSemicolon member
  rw [ofText?, if_neg noTerminator, code, kept]

theorem ofText?_of_fields {text : String} {first : List Char} {others : List (List Char)}
    (noSemicolon : ';' ∉ text.toList)
    (written : text.toList.filter (· != ',') = first ++ others.flatMap (' ' :: ·))
    (isField : ∀ field ∈ first :: others, Text.IsField field) :
    ofText? text = some (.instruction
      ⟨String.ofList (Text.uppercase first), others.map String.ofList⟩) := by
  have cut : Text.fields (first ++ others.flatMap (' ' :: ·)) = first :: others := by
    apply Text.fields_spaced
    · intro field member
      exact (isField field member).1
    · intro field member character inField
      exact ((isField field member).2 character inField).1
  rw [ofText?_of_no_semicolon noSemicolon, written, cut]
  rfl

end Line

/-! ## Operands as they are written -/

theorem Numeral.isField_digits {base : Nat} (atMost : base ≤ 16) (atLeast : 1 < base)
    (number : Nat) : Text.IsField (digits base number) := by
  have solidDigit : ∀ digit < 16, Text.IsSolid digit.digitChar := by decide
  refine ⟨digits_ne_nil base number, ?_⟩
  intro character member
  rcases mem_digits atMost atLeast member with ⟨digit, less, rfl⟩
  exact solidDigit digit (Nat.lt_of_lt_of_le less atMost)

theorem Text.IsField.cons {head : Char} {text : List Char} (solid : IsSolid head)
    (field : IsField text) : IsField (head :: text) :=
  ⟨List.cons_ne_nil _ _, List.forall_mem_cons.mpr ⟨solid, field.2⟩⟩

theorem Numeral.isField_decimal (number : Int) : Text.IsField (decimal number) := by
  have field (magnitude : Nat) : Text.IsField (digits 10 magnitude) :=
    isField_digits (by decide) (by decide) magnitude
  cases number with
  | ofNat magnitude => exact field magnitude
  | negSucc predecessor => exact .cons (by decide) (field _)

theorem Operands.isField_of_mem_texts {operands : Operands} {token : String}
    (member : token ∈ operands.texts) : Text.IsField token.toList := by
  have number (value : Int) : Text.IsField (Numeral.decimalText value).toList := by
    rw [Numeral.decimalText, String.toList_ofList]
    exact Numeral.isField_decimal value
  have name (register : Nat) : Text.IsField (registerText register).toList := by
    rw [registerText, String.toList_append]
    exact .cons (by decide) (number register)
  cases operands with
  | bare => simp [texts] at member
  | registerPair first second =>
      simp only [texts, List.mem_cons, List.not_mem_nil, or_false] at member
      rcases member with rfl | rfl
      · exact name first
      · exact name second
  | registerImmediate register immediate =>
      simp only [texts, List.mem_cons, List.not_mem_nil, or_false] at member
      rcases member with rfl | rfl
      · exact name register
      · exact number immediate
  | memory first second offset =>
      simp only [texts, List.mem_cons, List.not_mem_nil, or_false] at member
      rcases member with rfl | rfl | rfl
      · exact name first
      · exact name second
      · exact number offset

/-! ## Instructions as they are written -/

theorem toList_foldl_separated (separator : String) (tokens : List String) (front : String) :
    (tokens.foldl (fun text token => text ++ separator ++ token) front).toList =
      front.toList ++ tokens.flatMap (separator.toList ++ ·.toList) := by
  induction tokens generalizing front with
  | nil => simp
  | cons token others induction =>
      rw [List.foldl_cons, induction, List.flatMap_cons]
      simp only [String.toList_append, List.append_assoc]

namespace Instruction

theorem toList_text (instruction : Instruction) :
    instruction.text.toList =
      instruction.mnemonic.toList ++
        match instruction.operands.texts with
        | [] => []
        | first :: others => ' ' :: first.toList ++ others.flatMap (',' :: ' ' :: ·.toList) := by
  rw [text]
  cases instruction.operands.texts with
  | nil => exact (List.append_nil _).symm
  | cons first others =>
      dsimp only
      rw [toList_foldl_separated]
      simp

variable {instruction : Instruction} (field : Text.IsField instruction.mnemonic.toList)
include field

theorem of_mem_text {character : Char} (member : character ∈ instruction.text.toList) :
    Text.IsSolid character ∨ character = ' ' ∨ character = ',' := by
  have solid {token : String} (inTexts : token ∈ instruction.operands.texts) :=
    (Operands.isField_of_mem_texts inTexts).2
  rw [toList_text, List.mem_append] at member
  rcases member with inMnemonic | inOperands
  · exact .inl (field.2 character inMnemonic)
  · cases written : instruction.operands.texts with
    | nil => simp [written] at inOperands
    | cons first others =>
        rw [written] at inOperands solid
        simp only [List.cons_append, List.mem_cons, List.mem_append, List.mem_flatMap]
          at inOperands
        rcases inOperands with space | inFirst | ⟨token, inOthers, comma | space | inToken⟩
        · exact .inr (.inl space)
        · exact .inl (solid List.mem_cons_self character inFirst)
        · exact .inr (.inr comma)
        · exact .inr (.inl space)
        · exact .inl (solid (List.mem_cons_of_mem first inOthers) character inToken)

theorem filter_text :
    instruction.text.toList.filter (· != ',') =
      instruction.mnemonic.toList ++ instruction.operands.texts.flatMap (' ' :: ·.toList) := by
  have kept {text : List Char} (isField : Text.IsField text) : text.filter (· != ',') = text := by
    apply List.filter_eq_self.mpr
    intro character member
    exact bne_iff_ne.mpr (isField.2 character member).2.1
  have keptToken {token : String} (inTexts : token ∈ instruction.operands.texts) :=
    kept (Operands.isField_of_mem_texts inTexts)
  rw [toList_text, List.filter_append, kept field]
  cases written : instruction.operands.texts with
  | nil => rfl
  | cons first others =>
      rw [written] at keptToken
      have keptOthers : (others.flatMap (',' :: ' ' :: ·.toList)).filter (· != ',') =
          others.flatMap (' ' :: ·.toList) := by
        rw [List.filter_flatMap]
        apply List.flatMap_congr
        intro token inOthers
        rw [List.filter_cons_of_neg (by decide), List.filter_cons_of_pos (by decide),
          keptToken (List.mem_cons_of_mem first inOthers)]
      dsimp only
      rw [List.cons_append, List.filter_cons_of_pos (by decide), List.filter_append,
        keptToken List.mem_cons_self, keptOthers, List.flatMap_cons, List.cons_append]

theorem ofText?_text (capitalized : Text.IsCapitalized instruction.mnemonic.toList) :
    Line.ofText? instruction.text = some (.instruction instruction.sourceLine) := by
  have noSemicolon : ';' ∉ instruction.text.toList := by
    intro member
    rcases of_mem_text field member with solid | space | comma
    · exact absurd solid (by decide)
    · contradiction
    · contradiction
  have isField : ∀ text ∈ instruction.mnemonic.toList ::
      instruction.operands.texts.map String.toList, Text.IsField text := by
    refine List.forall_mem_cons.mpr ⟨field, ?_⟩
    intro text member
    rcases List.mem_map.mp member with ⟨token, inTexts, rfl⟩
    exact Operands.isField_of_mem_texts inTexts
  have written : instruction.text.toList.filter (· != ',') = instruction.mnemonic.toList ++
      (instruction.operands.texts.map String.toList).flatMap (' ' :: ·) := by
    rw [filter_text field, List.flatMap_map]
  rw [Line.ofText?_of_fields noSemicolon written isField, capitalized, List.map_map]
  simp [Function.comp_def, sourceLine]

theorem lineFeed_not_mem_text :
    '\n' ∉ instruction.text.toList ∧ '\r' ∉ instruction.text.toList := by
  constructor
  · intro member
    exact absurd (of_mem_text field member) (by decide)
  · intro member
    exact absurd (of_mem_text field member) (by decide)

end Instruction

end TwinIsa
