import Mathlib.Data.List.TakeWhile
import TwinIsa.Text.Blank

/-!
What cutting a text takes apart and what it leaves as it is. Everything about fields follows from
two facts: a blank ends a piece, and a text without blanks is one piece. So the fields of a text are
its maximal runs without blanks, and trimming leaves what stands between blanks at both ends.
-/

namespace TwinIsa.Text

/-! ## Pieces -/

section Pieces

variable {isSeparator : Char → Bool}

theorem pieces_ne_nil (text : List Char) : pieces isSeparator text ≠ [] := by
  cases text with
  | nil => simp [pieces]
  | cons head rest =>
      rw [pieces]
      split
      · simp
      · split <;> simp

theorem pieces_append_separator {separator : Char} (separates : isSeparator separator = true)
    (front back : List Char) :
    pieces isSeparator (front ++ separator :: back) =
      pieces isSeparator front ++ pieces isSeparator back := by
  induction front with
  | nil => simp [pieces, separates]
  | cons head rest induction =>
      rw [List.cons_append, pieces, pieces, induction]
      split
      · rw [List.cons_append]
      · cases cut : pieces isSeparator rest with
        | nil => exact absurd cut (pieces_ne_nil rest)
        | cons first others => rfl

theorem pieces_of_clean {text : List Char}
    (clean : ∀ character ∈ text, isSeparator character = false) :
    pieces isSeparator text = [text] := by
  induction text with
  | nil => rfl
  | cons head rest induction =>
      rw [List.forall_mem_cons] at clean
      rw [pieces, clean.1, induction clean.2]
      rfl

theorem clean_of_mem_pieces {text piece : List Char} (member : piece ∈ pieces isSeparator text) :
    ∀ character ∈ piece, isSeparator character = false ∧ character ∈ text := by
  induction text generalizing piece with
  | nil =>
      rw [pieces, List.mem_singleton] at member
      simp [member]
  | cons head rest induction =>
      have later {other : List Char} (inRest : other ∈ pieces isSeparator rest) :
          ∀ character ∈ other, isSeparator character = false ∧ character ∈ head :: rest :=
        fun character inOther =>
          (induction inRest character inOther).imp_right (List.mem_cons_of_mem head)
      rw [pieces] at member
      split at member
      · rcases List.mem_cons.mp member with rfl | inRest
        · simp
        · exact later inRest
      next notSeparator =>
        split at member
        next none => exact absurd none (pieces_ne_nil rest)
        next first others cut =>
          rw [cut] at later
          rcases List.mem_cons.mp member with rfl | inOthers
          · refine List.forall_mem_cons.mpr ⟨⟨?_, List.mem_cons_self⟩, later List.mem_cons_self⟩
            simpa using notSeparator
          · exact later (List.mem_cons_of_mem first inOthers)

end Pieces

/-! ## Fields -/

theorem fields_append_blank {blank : Char} (isBlank_blank : isBlank blank = true)
    (front back : List Char) : fields (front ++ blank :: back) = fields front ++ fields back := by
  rw [fields, pieces_append_separator isBlank_blank, List.filter_append, ← fields, ← fields]

theorem fields_of_clean {field : List Char} (nonempty : field ≠ [])
    (clean : ∀ character ∈ field, isBlank character = false) : fields field = [field] := by
  rw [fields, pieces_of_clean clean]
  simp [nonempty]

theorem fields_spaced {first : List Char} {others : List (List Char)}
    (nonempty : ∀ field ∈ first :: others, field ≠ [])
    (clean : ∀ field ∈ first :: others, ∀ character ∈ field, isBlank character = false) :
    fields (first ++ others.flatMap (' ' :: ·)) = first :: others := by
  induction others generalizing first with
  | nil =>
      rw [List.flatMap_nil, List.append_nil]
      exact fields_of_clean (nonempty first List.mem_cons_self) (clean first List.mem_cons_self)
  | cons next others induction =>
      rw [List.forall_mem_cons] at nonempty clean
      rw [List.flatMap_cons, List.cons_append, fields_append_blank (by decide),
        fields_of_clean nonempty.1 clean.1, induction nonempty.2 clean.2]
      rfl

theorem of_mem_fields {text field : List Char} (member : field ∈ fields text) :
    field ≠ [] ∧ ∀ character ∈ field, isBlank character = false ∧ character ∈ text := by
  rw [fields, List.mem_filter] at member
  exact ⟨by simpa using member.2, clean_of_mem_pieces member.1⟩

/-! ## Maximal runs -/

/-- A text cut into its maximal runs of characters that are not blank: behind a run the text ends or
goes on with a blank. -/
inductive CutsInto : List Char → List (List Char) → Prop
  | nil {gap : List Char} (blank : ∀ character ∈ gap, isBlank character = true) : CutsInto gap []
  | cons {gap field rest : List Char} {fields : List (List Char)}
      (blank : ∀ character ∈ gap, isBlank character = true) (nonempty : field ≠ [])
      (clean : ∀ character ∈ field, isBlank character = false)
      (ends : ∀ next ∈ rest.head?, isBlank next = true) (later : CutsInto rest fields) :
      CutsInto (gap ++ field ++ rest) (field :: fields)

theorem fields_blanks_append {gap : List Char}
    (blank : ∀ character ∈ gap, isBlank character = true) (text : List Char) :
    fields (gap ++ text) = fields text := by
  induction gap with
  | nil => rfl
  | cons head rest induction =>
      rw [List.forall_mem_cons] at blank
      calc
        fields (head :: rest ++ text) = fields [] ++ fields (rest ++ text) :=
          fields_append_blank blank.1 [] (rest ++ text)
        _ = fields text := induction blank.2

theorem fields_append_blanks_append {gap : List Char} (nonempty : gap ≠ [])
    (blank : ∀ character ∈ gap, isBlank character = true) (front back : List Char) :
    fields (front ++ gap ++ back) = fields front ++ fields back := by
  rcases List.exists_cons_of_ne_nil nonempty with ⟨head, rest, rfl⟩
  rw [List.forall_mem_cons] at blank
  rw [List.append_assoc, List.cons_append, fields_append_blank blank.1,
    fields_blanks_append blank.2]

theorem CutsInto.fields_eq {text : List Char} {runs : List (List Char)}
    (cut : CutsInto text runs) : fields text = runs := by
  induction cut with
  | @nil gap blank =>
      rw [← List.append_nil gap, fields_blanks_append blank]
      rfl
  | @cons gap field rest runs blank nonempty clean ends _ induction =>
      rw [List.append_assoc, fields_blanks_append blank]
      cases rest with
      | nil =>
          rw [List.append_nil, fields_of_clean nonempty clean, ← induction]
          rfl
      | cons next others =>
          have isBlank_next := ends next rfl
          have skipped := fields_blanks_append (List.forall_mem_singleton.mpr isBlank_next) others
          rw [List.singleton_append, induction] at skipped
          rw [fields_append_blank isBlank_next, fields_of_clean nonempty clean, ← skipped]
          rfl

theorem exists_cutsInto (text : List Char) : ∃ runs, CutsInto text runs := by
  induction text with
  | nil => exact ⟨[], .nil nofun⟩
  | cons head rest induction =>
      rcases induction with ⟨runs, cut⟩
      by_cases blankHead : isBlank head = true
      · -- A blank belongs to the gap before the first run.
        cases cut with
        | nil blank => exact ⟨[], .nil (List.forall_mem_cons.mpr ⟨blankHead, blank⟩)⟩
        | cons blank nonempty clean ends later =>
            exact ⟨_, .cons (List.forall_mem_cons.mpr ⟨blankHead, blank⟩) nonempty clean ends
              later⟩
      · -- Any other character begins a run, or goes before the first if no gap is there.
        have solidHead : isBlank head = false := Bool.eq_false_iff.mpr blankHead
        have alone : ∀ character ∈ [head], isBlank character = false :=
          List.forall_mem_singleton.mpr solidHead
        cases cut with
        | nil blank =>
            exact ⟨[[head]], @CutsInto.cons [] [head] rest [] nofun (List.cons_ne_nil head []) alone
              (fun next found => blank next (List.mem_of_mem_head? found)) (.nil blank)⟩
        | @cons gap field rest runs blank nonempty clean ends later =>
            cases gap with
            | nil =>
                exact ⟨_, @CutsInto.cons [] (head :: field) rest runs nofun
                  (List.cons_ne_nil head field) (List.forall_mem_cons.mpr ⟨solidHead, clean⟩) ends
                  later⟩
            | cons next gap =>
                have startsBlank : ∀ first ∈ (next :: gap ++ field ++ rest).head?,
                    isBlank first = true := by
                  rintro _ ⟨⟩
                  exact blank next List.mem_cons_self
                exact ⟨_, @CutsInto.cons [] [head] _ _ nofun (List.cons_ne_nil head []) alone
                  startsBlank (.cons blank nonempty clean ends later)⟩

theorem cutsInto_iff {text : List Char} {runs : List (List Char)} :
    CutsInto text runs ↔ fields text = runs := by
  constructor
  · exact CutsInto.fields_eq
  · rintro rfl
    rcases exists_cutsInto text with ⟨runs, cut⟩
    rwa [cut.fields_eq]

/-! ## Both ends -/

theorem mem_of_mem_trim {text : List Char} {character : Char} (member : character ∈ trim text) :
    character ∈ text := by
  rw [trim, List.mem_reverse] at member
  have inReverse := (List.dropWhile_sublist _).mem member
  rw [List.mem_reverse] at inReverse
  exact (List.dropWhile_sublist _).mem inReverse

theorem trim_of_clean {text : List Char}
    (clean : ∀ character ∈ text, isBlank character = false) : trim text = text := by
  have kept {characters : List Char} (clean : ∀ character ∈ characters, isBlank character = false) :
      characters.dropWhile isBlank = characters := by
    cases characters with
    | nil => rfl
    | cons head rest => rw [List.dropWhile_cons, clean head List.mem_cons_self, if_neg (by simp)]
  rw [trim, kept clean, kept fun character member => clean character (List.mem_reverse.mp member),
    List.reverse_reverse]

theorem trim_blanks_append {before : List Char}
    (blanks : ∀ character ∈ before, isBlank character = true) (text : List Char) :
    trim (before ++ text) = trim text := by
  rw [trim, List.dropWhile_append_of_pos blanks, trim]

theorem trim_append_blanks {after : List Char}
    (blanks : ∀ character ∈ after, isBlank character = true) (text : List Char) :
    trim (text ++ after) = trim text := by
  have none : after.dropWhile isBlank = [] := List.dropWhile_eq_nil_iff.mpr blanks
  rw [trim, trim, List.dropWhile_append]
  split
  next empty => rw [none, List.isEmpty_iff.mp empty]
  next =>
    have reversed : ∀ character ∈ after.reverse, isBlank character = true := by simpa using blanks
    rw [List.reverse_append, List.dropWhile_append_of_pos reversed]

theorem exists_eq_append_trim (text : List Char) :
    ∃ before after, (∀ character ∈ before, isBlank character = true) ∧
      (∀ character ∈ after, isBlank character = true) ∧ text = before ++ trim text ++ after := by
  have blank (characters : List Char) :
      ∀ character ∈ characters.takeWhile isBlank, isBlank character = true :=
    fun _ => List.mem_takeWhile_imp
  refine ⟨text.takeWhile isBlank, ((text.dropWhile isBlank).reverse.takeWhile isBlank).reverse,
    blank text, ?_, ?_⟩
  · intro character member
    exact blank _ character (List.mem_reverse.mp member)
  · rw [trim, List.append_assoc, ← List.reverse_append, List.takeWhile_append_dropWhile,
      List.reverse_reverse, List.takeWhile_append_dropWhile]

theorem trim_eq_iff {text core : List Char}
    (clean : ∀ character ∈ core, isBlank character = false) :
    trim text = core ↔ ∃ before after, (∀ character ∈ before, isBlank character = true) ∧
      (∀ character ∈ after, isBlank character = true) ∧ text = before ++ core ++ after := by
  constructor
  · rintro rfl
    exact exists_eq_append_trim text
  · rintro ⟨before, after, blankBefore, blankAfter, rfl⟩
    rw [trim_append_blanks blankAfter, trim_blanks_append blankBefore, trim_of_clean clean]

theorem trim_eq_nil_iff {text : List Char} :
    trim text = [] ↔ ∀ character ∈ text, isBlank character = true := by
  have cleanNil : ∀ character ∈ ([] : List Char), isBlank character = false := nofun
  rw [trim_eq_iff cleanNil]
  constructor
  · rintro ⟨before, after, blankBefore, blankAfter, rfl⟩
    rw [List.append_nil, List.forall_mem_append]
    exact ⟨blankBefore, blankAfter⟩
  · intro blank
    exact ⟨text, [], blank, nofun, by simp⟩

end TwinIsa.Text
