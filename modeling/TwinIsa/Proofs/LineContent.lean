import Mathlib.Logic.Relation
import TwinIsa.Proofs.SourceText

/-!
What a line says, without cutting it. A line ends a program if it has three semicolons between
blanks and nothing else. Of any other line only what stands before its first semicolon counts, and
of that the maximal runs without blanks once the commas are gone. So the comment, the number of the
blanks between fields and the commas can be changed without changing what the line says.
-/

namespace TwinIsa.Line

/-! ## Terminators -/

def IsTerminator (text : List Char) : Prop :=
  ∃ before after, (∀ character ∈ before, Text.isBlank character = true) ∧
    (∀ character ∈ after, Text.isBlank character = true) ∧
    text = before ++ [';', ';', ';'] ++ after

theorem trim_eq_terminatorText_iff {text : List Char} :
    Text.trim text = terminatorText ↔ IsTerminator text := by
  apply Text.trim_eq_iff
  intro character member
  have repeated : character ∈ List.replicate 3 ';' := member
  rw [List.eq_of_mem_replicate repeated]
  rfl

theorem ofText?_eq_terminator_iff {text : String} :
    ofText? text = some .terminator ↔ IsTerminator text.toList := by
  rw [← trim_eq_terminatorText_iff, ofText?]
  split
  next trimmed => exact ⟨fun _ => trimmed, fun _ => rfl⟩
  next different => simp [different]

theorem ofText?_of_not_terminator {text : String} (noTerminator : ¬IsTerminator text.toList) :
    ofText? text =
      (SourceLine.ofFields? (Text.fields (code text.toList))).map instruction := by
  rw [ofText?, if_neg (trim_eq_terminatorText_iff.not.mpr noTerminator)]

/-! ## Before the comment -/

def IsCode (text code : List Char) : Prop :=
  ';' ∉ code ∧ (text = code ∨ ∃ comment, text = code ++ ';' :: comment)

theorem takeWhile_of_not_mem {front : List Char} (noSemicolon : ';' ∉ front) (back : List Char) :
    (front ++ back).takeWhile (· != ';') = front ++ back.takeWhile (· != ';') := by
  apply List.takeWhile_append_of_pos
  intro character member
  apply bne_iff_ne.mpr
  rintro rfl
  exact noSemicolon member

theorem isCode_iff {text front : List Char} :
    IsCode text front ↔ text.takeWhile (· != ';') = front := by
  constructor
  · rintro ⟨noSemicolon, rfl | ⟨comment, rfl⟩⟩
    · rw [← List.append_nil text, takeWhile_of_not_mem noSemicolon]
      rfl
    · rw [takeWhile_of_not_mem noSemicolon]
      simp
  · rintro rfl
    have noSemicolon : ';' ∉ text.takeWhile (· != ';') := fun member =>
      absurd (List.mem_takeWhile_imp member) (by decide)
    refine ⟨noSemicolon, ?_⟩
    cases rest : text.dropWhile (· != ';') with
    | nil =>
        exact .inl (List.takeWhile_eq_self_iff.mpr (List.dropWhile_eq_nil_iff.mp rest)).symm
    | cons first comment =>
        have nonempty : text.dropWhile (· != ';') ≠ [] := by simp [rest]
        have isSemicolon : first = ';' := by
          have stops := List.head_dropWhile_not (· != ';') nonempty
          simpa [rest] using stops
        cases isSemicolon
        refine .inr ⟨comment, ?_⟩
        rw [← rest, List.takeWhile_append_dropWhile]

theorem code_eq {text front : List Char} (isCode : IsCode text front) :
    code text = front.filter (· != ',') := by
  rw [code, isCode_iff.mp isCode]

theorem code_append {front : List Char} (noSemicolon : ';' ∉ front) (back : List Char) :
    code (front ++ back) = front.filter (· != ',') ++ code back := by
  rw [code, takeWhile_of_not_mem noSemicolon, List.filter_append, code]

theorem ofText?_eq_ofText?_code {text : String} {front : List Char}
    (noTerminator : ¬IsTerminator text.toList) (isCode : IsCode text.toList front) :
    ofText? text = ofText? (String.ofList front) := by
  have noSemicolon : ';' ∉ (String.ofList front).toList := by
    rw [String.toList_ofList]
    exact isCode.1
  rw [ofText?_of_not_terminator noTerminator, ofText?_of_no_semicolon noSemicolon, code_eq isCode,
    String.toList_ofList]

/-! ## Fields -/

theorem ofText?_of_cutsInto {text : String} {front : List Char} {runs : List (List Char)}
    (noTerminator : ¬IsTerminator text.toList) (isCode : IsCode text.toList front)
    (cut : Text.CutsInto (front.filter (· != ',')) runs) :
    ofText? text = (SourceLine.ofFields? runs).map instruction := by
  rw [ofText?_of_not_terminator noTerminator, code_eq isCode, cut.fields_eq]

theorem cutsInto_nil_iff {text : List Char} :
    Text.CutsInto text [] ↔ ∀ character ∈ text, Text.isBlank character = true := by
  constructor
  · intro cut
    cases cut with
    | nil blank => exact blank
  · exact .nil

theorem blank_filter_iff {front : List Char} :
    (∀ character ∈ front.filter (· != ','), Text.isBlank character = true) ↔
      ∀ character ∈ front, Text.isBlank character = true ∨ character = ',' := by
  simp only [List.mem_filter, bne_iff_ne, ne_eq, and_imp]
  refine forall_congr' fun character => forall_congr' fun _ => ?_
  rw [or_comm, or_iff_not_imp_left]

theorem ofFields?_eq_none_iff {fields : List (List Char)} :
    SourceLine.ofFields? fields = none ↔ fields = [] := by
  cases fields <;> simp [SourceLine.ofFields?]

theorem ofText?_eq_none_iff {text : String} {front : List Char}
    (noTerminator : ¬IsTerminator text.toList) (isCode : IsCode text.toList front) :
    ofText? text = none ↔
      ∀ character ∈ front, Text.isBlank character = true ∨ character = ',' := by
  rw [ofText?_of_not_terminator noTerminator, code_eq isCode, Option.map_eq_none_iff,
    ofFields?_eq_none_iff, ← Text.cutsInto_iff, cutsInto_nil_iff, blank_filter_iff]

theorem isField_of_mem_fields {text : String} {line : SourceLine}
    (read : ofText? text = some (.instruction line)) {field : String}
    (member : field ∈ line.fields) : Text.IsField field.toList := by
  have noTerminator : ¬IsTerminator text.toList := by
    rw [← ofText?_eq_terminator_iff, read]
    simp
  rw [ofText?_of_not_terminator noTerminator] at read
  cases cut : Text.fields (code text.toList) with
  | nil => simp [cut, SourceLine.ofFields?] at read
  | cons first others =>
      have isField : ∀ text ∈ first :: others, Text.IsField text := by
        rw [← cut]
        exact fun _ => isField_of_mem_fields_code
      rw [List.forall_mem_cons] at isField
      simp only [cut, SourceLine.ofFields?, Option.map_some, Option.some.injEq,
        instruction.injEq] at read
      subst read
      rcases List.mem_cons.mp member with rfl | inOperands
      · rw [String.toList_ofList]
        exact Text.isField_uppercase isField.1
      · rcases List.mem_map.mp inOperands with ⟨other, inOthers, rfl⟩
        rw [String.toList_ofList]
        exact isField.2 other inOthers

/-! ## Changes to a line -/

/-- A change that leaves alone what a line says: of its comment, of the blanks at a place where there
are some, or by one comma more. -/
inductive Edit : List Char → List Char → Prop
  | comment {front : List Char} (noSemicolon : ';' ∉ front) (old new : List Char) :
      Edit (front ++ ';' :: old) (front ++ ';' :: new)
  | blanks {front old new : List Char} (noSemicolon : ';' ∉ front) (back : List Char)
      (oldNonempty : old ≠ []) (oldBlank : ∀ character ∈ old, Text.isBlank character = true)
      (newNonempty : new ≠ []) (newBlank : ∀ character ∈ new, Text.isBlank character = true) :
      Edit (front ++ old ++ back) (front ++ new ++ back)
  | comma {front : List Char} (noSemicolon : ';' ∉ front) (back : List Char) :
      Edit (front ++ back) (front ++ ',' :: back)

theorem code_of_blank {gap : List Char}
    (blank : ∀ character ∈ gap, Text.isBlank character = true) (back : List Char) :
    code (gap ++ back) = gap ++ code back := by
  have noSemicolon : ';' ∉ gap := fun member => absurd (blank ';' member) (by decide)
  have noComma : ∀ character ∈ gap, (character != ',') = true := by
    intro character member
    apply bne_iff_ne.mpr
    rintro rfl
    exact absurd (blank ',' member) (by decide)
  rw [code_append noSemicolon, List.filter_eq_self.mpr noComma]

theorem Edit.fields_code_eq {text other : List Char} (edit : Edit text other) :
    Text.fields (code text) = Text.fields (code other) := by
  cases edit with
  | comment noSemicolon old new =>
      rw [code_append noSemicolon, code_append noSemicolon]
      rfl
  | blanks noSemicolon back oldNonempty oldBlank newNonempty newBlank =>
      have cut {gap : List Char} (nonempty : gap ≠ [])
          (blank : ∀ character ∈ gap, Text.isBlank character = true) :=
        Text.fields_append_blanks_append nonempty blank
      rw [List.append_assoc, List.append_assoc, code_append noSemicolon, code_append noSemicolon,
        code_of_blank oldBlank, code_of_blank newBlank, ← List.append_assoc, ← List.append_assoc,
        cut oldNonempty oldBlank, cut newNonempty newBlank]
  | comma noSemicolon back =>
      have dropped : code (',' :: back) = code back := rfl
      rw [code_append noSemicolon, code_append noSemicolon, dropped]

theorem fields_code_eq_of_eqvGen {text other : List Char}
    (edited : Relation.EqvGen Edit text other) :
    Text.fields (code text) = Text.fields (code other) := by
  induction edited with
  | rel text other edit => exact edit.fields_code_eq
  | refl text => rfl
  | symm text other _ induction => exact induction.symm
  | trans text middle other _ _ first second => exact first.trans second

/-- A line ends the program just if it has three semicolons between blanks. Of any other line what
stands before the first semicolon says all: nothing if it is blanks and commas, and else its maximal
runs without blanks, commas apart, with the first of them in capitals. Lines that differ only in
comments, in the blanks between fields and in commas say the same unless one of them ends the
program. -/
theorem ofText?_determined (text : String) :
    (ofText? text = some .terminator ↔ IsTerminator text.toList) ∧
    (ofText? text ≠ some .terminator →
      ∃ front, IsCode text.toList front ∧ ofText? text = ofText? (String.ofList front) ∧
        (ofText? text = none ↔
          ∀ character ∈ front, Text.isBlank character = true ∨ character = ',') ∧
        ((∃ character ∈ front, ¬(Text.isBlank character = true ∨ character = ',')) →
          ∃ line first others, ofText? text = some (.instruction line) ∧
            Text.CutsInto (front.filter (· != ',')) (first :: others) ∧
            line.fields = String.ofList (Text.uppercase first) :: others.map String.ofList ∧
            ∀ field ∈ line.fields, Text.IsField field.toList)) ∧
    ∀ other : String, ofText? text ≠ some .terminator → ofText? other ≠ some .terminator →
      Relation.EqvGen Edit text.toList other.toList → ofText? text = ofText? other := by
  refine ⟨ofText?_eq_terminator_iff, ?_, ?_⟩
  · intro noTerminator
    rw [ne_eq, ofText?_eq_terminator_iff] at noTerminator
    have isCode := isCode_iff.mpr (Eq.refl (text.toList.takeWhile (· != ';')))
    refine ⟨_, isCode, ofText?_eq_ofText?_code noTerminator isCode,
      ofText?_eq_none_iff noTerminator isCode, ?_⟩
    intro saysSomething
    rcases Text.exists_cutsInto ((text.toList.takeWhile (· != ';')).filter (· != ',')) with
      ⟨runs, cut⟩
    have read := ofText?_of_cutsInto noTerminator isCode cut
    cases runs with
    | nil =>
        rcases saysSomething with ⟨character, member, visible⟩
        exact absurd (blank_filter_iff.mp (cutsInto_nil_iff.mp cut) character member) visible
    | cons first others =>
        exact ⟨_, first, others, read, cut, rfl, fun _ => isField_of_mem_fields read⟩
  · intro other noTerminator otherNoTerminator edited
    rw [ne_eq, ofText?_eq_terminator_iff] at noTerminator otherNoTerminator
    rw [ofText?_of_not_terminator noTerminator, ofText?_of_not_terminator otherNoTerminator,
      fields_code_eq_of_eqvGen edited]

/-- An ideographic space for two spaces, a comma inside an operand, and semicolons in a comment. -/
theorem ofText?_determined_edits :
    ofText? "ß\u3000r,1 ; one" ≠ some .terminator ∧ ofText? "ß  r1 ;;;" ≠ some .terminator ∧
      ofText? "ß\u3000r,1 ; one" = ofText? "ß  r1 ;;;" := by
  have ideographic : ∀ character ∈ ['\u3000'], Text.isBlank character = true :=
    List.forall_mem_singleton.mpr rfl
  have spaces : ∀ character ∈ [' ', ' '], Text.isBlank character = true :=
    List.forall_mem_cons.mpr ⟨rfl, List.forall_mem_singleton.mpr rfl⟩
  have blanks : Edit "ß\u3000r,1 ; one".toList "ß  r,1 ; one".toList :=
    @Edit.blanks ['ß'] ['\u3000'] [' ', ' '] (by decide) _ (by decide) ideographic (by decide)
      spaces
  have comma : Edit "ß  r1 ; one".toList "ß  r,1 ; one".toList :=
    @Edit.comma ['ß', ' ', ' ', 'r'] (by decide) _
  have comment : Edit "ß  r1 ; one".toList "ß  r1 ;;;".toList :=
    @Edit.comment ['ß', ' ', ' ', 'r', '1', ' '] (by decide) _ _
  have edited : Relation.EqvGen Edit "ß\u3000r,1 ; one".toList "ß  r1 ;;;".toList :=
    .trans _ _ _ (.rel _ _ blanks)
      (.trans _ _ _ (.symm _ _ (.rel _ _ comma)) (.rel _ _ comment))
  have first : ofText? "ß\u3000r,1 ; one" ≠ some .terminator := by decide +kernel
  have second : ofText? "ß  r1 ;;;" ≠ some .terminator := by decide +kernel
  exact ⟨first, second, (ofText?_determined _).2.2 _ first second edited⟩

end TwinIsa.Line
