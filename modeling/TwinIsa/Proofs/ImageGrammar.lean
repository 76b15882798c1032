import TwinIsa.Proofs.ImageSpelling
import TwinIsa.Proofs.LiteralGrammar

/-!
The language of images. A line is blank or has a number between blanks, which is hexadecimal digits
behind at most one plus sign. A text is read if and only if the number of each line fits the machine;
otherwise the first line that is at fault is reported, by its place among all lines.
-/

namespace TwinIsa

/-! ## Numerals -/

namespace Numeral

variable {base : Nat} (atMost : base ≤ 16) {text : List Char} {number : Nat}
include atMost

theorem Spells.isBlank_of_mem (spells : Spells base text number) {character : Char}
    (member : character ∈ text) : Text.isBlank character = false := by
  rcases (isDigit_iff atMost).mp (spells.isDigit_of_mem atMost member) with ⟨digit, less, written⟩
  exact (digit?_of_recased digit (Nat.lt_of_lt_of_le less atMost) character written).2.1

end Numeral

namespace HexImage

/-! ## Numbers -/

inductive Number : List Char → Nat → Prop
  | unsigned {digits : List Char} {value : Nat} (spelled : Numeral.Spells 16 digits value) :
      Number digits value
  | plus {digits : List Char} {value : Nat} (spelled : Numeral.Spells 16 digits value) :
      Number ('+' :: digits) value

/-- A text whose front is a number that 32 bits do not hold, whatever stands behind it. -/
def StartsTooLarge (text : List Char) : Prop :=
  ∃ front value, front <+: text ∧ Number front value ∧ Word.count ≤ value

def unsignedPart : List Char → List Char
  | '+' :: digits => digits
  | text => text

variable {text : List Char} {value : Nat}

theorem unsignedPart_of_ne {head : Char} (noPlus : head ≠ '+') (rest : List Char) :
    unsignedPart (head :: rest) = head :: rest := by
  simp [unsignedPart, noPlus]

theorem number_iff : Number text value ↔ Numeral.Spells 16 (unsignedPart text) value := by
  constructor
  · intro number
    cases number with
    | plus spelled => exact spelled
    | unsigned spelled =>
        unfold unsignedPart
        split
        next digits =>
          have plusIsDigit := spelled.isDigit_of_mem (Nat.le_refl 16) List.mem_cons_self
          contradiction
        next => exact spelled
  · intro spelled
    unfold unsignedPart at spelled
    split at spelled
    next digits => exact .plus spelled
    next => exact .unsigned spelled

theorem Number.unique {other : Nat} (first : Number text value) (second : Number text other) :
    value = other := by
  rw [number_iff, Numeral.spells_iff (Nat.le_refl 16)] at first second
  exact first.2.2.symm.trans second.2.2

theorem Number.ne_nil (number : Number text value) : text ≠ [] := by
  rintro rfl
  rw [number_iff, Numeral.spells_iff (Nat.le_refl 16)] at number
  exact number.1 rfl

theorem Number.clean (number : Number text value) :
    ∀ character ∈ text, Text.isBlank character = false := by
  cases number with
  | unsigned spelled => exact fun _ => spelled.isBlank_of_mem (Nat.le_refl 16)
  | plus spelled =>
      rw [List.forall_mem_cons]
      exact ⟨by decide, fun _ => spelled.isBlank_of_mem (Nat.le_refl 16)⟩

theorem unsignedPart_append {front : List Char} (nonempty : front ≠ []) (back : List Char) :
    unsignedPart (front ++ back) = unsignedPart front ++ back := by
  rcases List.exists_cons_of_ne_nil nonempty with ⟨head, rest, rfl⟩
  by_cases plus : head = '+'
  · cases plus
    rfl
  · rw [List.cons_append, unsignedPart_of_ne plus, unsignedPart_of_ne plus, List.cons_append]

theorem startsTooLarge_iff :
    StartsTooLarge text ↔ ∃ front, front <+: unsignedPart text ∧
      (∀ character ∈ front, Numeral.isDigit 16 character = true) ∧
        Word.count ≤ Numeral.value 16 front := by
  constructor
  · rintro ⟨front, value, ⟨back, rfl⟩, number, large⟩
    have spelled := (Numeral.spells_iff (Nat.le_refl 16)).mp (number_iff.mp number)
    refine ⟨unsignedPart front, ?_, spelled.2.1, spelled.2.2.symm ▸ large⟩
    rw [unsignedPart_append number.ne_nil]
    exact List.prefix_append _ back
  · rintro ⟨front, starts, digits, large⟩
    have nonempty : front ≠ [] := by
      rintro rfl
      exact absurd large (by decide)
    have spelled := (Numeral.spells_iff (Nat.le_refl 16)).mpr ⟨nonempty, digits, rfl⟩
    unfold unsignedPart at starts
    split at starts
    next => exact ⟨'+' :: front, _, (List.prefix_cons_inj '+').mpr starts, .plus spelled, large⟩
    next => exact ⟨front, _, starts, .unsigned spelled, large⟩

/-! ### Reading numbers -/

theorem ne_nil_of_large {leading : Nat} (fits : leading < Word.count) {front : List Char}
    (large : Word.count ≤ Numeral.valueFrom 16 leading front) : front ≠ [] := by
  rintro rfl
  exact absurd fits (Nat.not_lt.mpr large)

/-- Digits are given up as too large at the first that takes the value out of 32 bits. -/
theorem readDigits_eq_tooLarge_iff {leading : Nat} (fits : leading < Word.count) :
    readDigits leading text = .error .tooLarge ↔ ∃ front, front <+: text ∧
      (∀ character ∈ front, Numeral.isDigit 16 character = true) ∧
        Word.count ≤ Numeral.valueFrom 16 leading front := by
  -- What is read so far goes into the leading value, which stays within 32 bits.
  induction text generalizing leading with
  | nil =>
      constructor
      · exact nofun
      · rintro ⟨front, starts, _, large⟩
        exact absurd (List.prefix_nil.mp starts) (ne_nil_of_large fits large)
  | cons head rest induction =>
      have first {front : List Char} (starts : front <+: head :: rest)
          (large : Word.count ≤ Numeral.valueFrom 16 leading front) :
          ∃ others, front = head :: others ∧ others <+: rest :=
        (List.prefix_cons_iff.mp starts).resolve_left (ne_nil_of_large fits large)
      rw [readDigits]
      cases found : Numeral.digit? 16 head with
      | none =>
          simp only [Except.error.injEq, reduceCtorEq, false_iff]
          rintro ⟨front, starts, digits, large⟩
          rcases first starts large with ⟨others, rfl, _⟩
          have headDigit := digits head List.mem_cons_self
          rw [Numeral.isDigit, found] at headDigit
          contradiction
      | some digit =>
          have isDigit : Numeral.isDigit 16 head = true := by rw [Numeral.isDigit, found]; rfl
          have shifted := Numeral.valueFrom_cons found leading
          dsimp only
          split
          next small =>
            rw [induction small]
            constructor
            · rintro ⟨front, starts, digits, large⟩
              exact ⟨head :: front, (List.prefix_cons_inj head).mpr starts,
                List.forall_mem_cons.mpr ⟨isDigit, digits⟩, by rwa [shifted]⟩
            · rintro ⟨front, starts, digits, large⟩
              rcases first starts large with ⟨others, rfl, startsRest⟩
              rw [shifted] at large
              exact ⟨others, startsRest, (List.forall_mem_cons.mp digits).2, large⟩
          next large =>
            refine iff_of_true rfl ⟨[head], by simp, by simpa using isDigit, ?_⟩
            rw [shifted]
            exact Nat.not_lt.mp large

theorem readNumber_eq (text : List Char) :
    readNumber text = if (unsignedPart text).isEmpty then .error .invalidDigit
      else readDigits 0 (unsignedPart text) := by
  unfold readNumber
  split
  next => rfl
  next noPlus =>
    have whole : unsignedPart text = text := by
      unfold unsignedPart
      split
      next digits => exact absurd rfl (noPlus digits)
      next => rfl
    rw [whole]

theorem readNumber_eq_ok_iff :
    readNumber text = .ok value ↔ Number text value ∧ value < Word.count := by
  rw [readNumber_eq, number_iff, Numeral.spells_iff (Nat.le_refl 16)]
  split
  next empty => simp [List.isEmpty_iff.mp empty]
  next nonempty =>
    rw [List.isEmpty_iff] at nonempty
    rw [readDigits_eq_ok_iff (by decide), Numeral.value, and_iff_right nonempty, and_assoc,
      @eq_comm _ value]

theorem readNumber_eq_tooLarge_iff :
    readNumber text = .error .tooLarge ↔ StartsTooLarge text := by
  rw [readNumber_eq, startsTooLarge_iff]
  split
  next empty =>
    rw [List.isEmpty_iff.mp empty]
    simp only [Except.error.injEq, reduceCtorEq, false_iff]
    rintro ⟨front, starts, _, large⟩
    rw [List.prefix_nil.mp starts] at large
    exact absurd large (by decide)
  next => exact readDigits_eq_tooLarge_iff (by decide)

/-! ## Lines -/

def Holds (line : List Char) (value : Nat) : Prop :=
  ∃ before number after, (∀ character ∈ before, Text.isBlank character = true) ∧
    (∀ character ∈ after, Text.isBlank character = true) ∧ Number number value ∧
    line = before ++ number ++ after

def Admits (isa : Isa) (line : List Char) : Prop :=
  (∀ character ∈ line, Text.isBlank character = true) ∨
    ∃ value < 2 ^ isa.layout.wordBits, Holds line value

inductive Fault (isa : Isa) (number : Nat) (line : List Char) : ImageError → Prop
  | badWord {reason : NumberError}
      (visible : ¬∀ character ∈ line, Text.isBlank character = true)
      (none : ∀ value < 2 ^ (32 : Nat), ¬Holds line value)
      (why : reason = .tooLarge ↔ StartsTooLarge (Text.trim line)) :
      Fault isa number line (.badWord number (Text.trim line) reason)
  | tooWide {value : Nat} (held : Holds line value) (wide : 2 ^ isa.layout.wordBits ≤ value)
      (fits : value < 2 ^ (32 : Nat)) :
      Fault isa number line (.tooWide number (Text.trim line) isa.layout.wordBits)

variable {isa : Isa} {line : List Char} {number : Nat} {error : ImageError}

theorem holds_iff : Holds line value ↔ Number (Text.trim line) value := by
  constructor
  · rintro ⟨before, digits, after, blankBefore, blankAfter, number, rfl⟩
    rwa [(Text.trim_eq_iff number.clean).mpr ⟨before, after, blankBefore, blankAfter, rfl⟩]
  · intro number
    rcases Text.exists_eq_append_trim line with ⟨before, after, blankBefore, blankAfter, whole⟩
    exact ⟨before, _, after, blankBefore, blankAfter, number, whole⟩

theorem Holds.visible (held : Holds line value) :
    ¬∀ character ∈ line, Text.isBlank character = true := by
  rw [← Text.trim_eq_nil_iff]
  exact (holds_iff.mp held).ne_nil

theorem two_pow_wordBits_le (isa : Isa) : 2 ^ isa.layout.wordBits ≤ 2 ^ (32 : Nat) := by
  cases isa <;> decide

theorem Fault.not_admits (fault : Fault isa number line error) : ¬Admits isa line := by
  cases fault with
  | badWord visible none _ =>
      rintro (blank | ⟨value, small, held⟩)
      · exact visible blank
      · exact none value (Nat.lt_of_lt_of_le small (two_pow_wordBits_le isa)) held
  | tooWide held wide _ =>
      rintro (blank | ⟨value, small, otherHeld⟩)
      · exact held.visible blank
      · rw [(holds_iff.mp otherHeld).unique (holds_iff.mp held)] at small
        exact absurd small (Nat.not_lt.mpr wide)

theorem Fault.message_of_none (fault : Fault isa number line error)
    (none : ∀ value < 2 ^ (32 : Nat), ¬Holds line value) :
    error.message = "line " ++ Numeral.decimalText number ++ ": bad hex word " ++
      String.ofList (Text.quoted (Text.trim line)) := by
  cases fault with
  | badWord _ _ _ => rfl
  | tooWide held _ fits => exact absurd held (none _ fits)

theorem Fault.message_of_held (fault : Fault isa number line error) (held : Holds line value)
    (fits : value < 2 ^ (32 : Nat)) :
    error.message = "line " ++ Numeral.decimalText number ++ ": " ++
      String.ofList (Text.trim line) ++ " does not fit a " ++
      Numeral.decimalText isa.layout.wordBits ++ "-bit word" := by
  cases fault with
  | badWord _ none _ => exact absurd held (none value fits)
  | tooWide _ _ _ => rfl

theorem readWord_cases (isa : Isa) (number : Nat)
    (visible : ¬∀ character ∈ line, Text.isBlank character = true) :
    (∃ word : Word, Holds line word.toNat ∧ word.toNat < 2 ^ isa.layout.wordBits ∧
      readWord isa number (Text.trim line) = .ok word) ∨
    ∃ error, Fault isa number line error ∧
      readWord isa number (Text.trim line) = .error error := by
  unfold readWord
  cases read : readNumber (Text.trim line) with
  | error reason =>
      refine .inr ⟨_, .badWord visible ?_ ?_, rfl⟩
      · intro value small held
        rw [readNumber_eq_ok_iff.mpr ⟨holds_iff.mp held, small⟩] at read
        contradiction
      · rw [← readNumber_eq_tooLarge_iff, read, Except.error.injEq]
  | ok value =>
      rcases readNumber_eq_ok_iff.mp read with ⟨isNumber, fits⟩
      dsimp only
      split
      next small =>
        have kept : (UInt32.ofNat value).toNat = value := UInt32.toNat_ofNat_of_lt' fits
        refine .inl ⟨_, ?_, ?_, rfl⟩
        · rwa [kept, holds_iff]
        · rwa [kept]
      next wide =>
        exact .inr ⟨_, .tooWide (holds_iff.mpr isNumber) (Nat.not_lt.mp wide) fits, rfl⟩

/-! ## Texts -/

def visibleLines (lines : List String) : List String :=
  lines.filter fun line => !line.toList.all Text.isBlank

theorem visibleLines_cons_of_blank {line : String}
    (blank : ∀ character ∈ line.toList, Text.isBlank character = true) (rest : List String) :
    visibleLines (line :: rest) = visibleLines rest := by
  rw [visibleLines, List.filter_cons_of_neg (by simpa using blank), visibleLines]

theorem visibleLines_cons_of_visible {line : String}
    (visible : ¬∀ character ∈ line.toList, Text.isBlank character = true) (rest : List String) :
    visibleLines (line :: rest) = line :: visibleLines rest := by
  rw [visibleLines, List.filter_cons_of_pos (by simpa using visible), visibleLines]

def FirstFault (isa : Isa) (number : Nat) (lines : List String) (error : ImageError) : Prop :=
  ∃ index line, lines[index]? = some line ∧
    (∀ earlier ∈ lines.take index, Admits isa earlier.toList) ∧
    Fault isa (number + index) line.toList error

theorem FirstFault.cons {line : String} {rest : List String} (admits : Admits isa line.toList)
    (later : FirstFault isa (number + 1) rest error) :
    FirstFault isa number (line :: rest) error := by
  rcases later with ⟨index, faulty, there, before, fault⟩
  refine ⟨index + 1, faulty, there, ?_, ?_⟩
  · rw [List.take_succ_cons, List.forall_mem_cons]
    exact ⟨admits, before⟩
  · rwa [Nat.add_right_comm, Nat.add_assoc] at fault

theorem readLines_cases (isa : Isa) (number : Nat) (lines : List String) :
    (∃ words, readLines isa number lines = .ok words ∧
      (∀ line ∈ lines, Admits isa line.toList) ∧
      List.Forall₂ (fun line (word : Word) => Holds line.toList word.toNat) (visibleLines lines)
        words) ∨
    ∃ error, readLines isa number lines = .error error ∧ FirstFault isa number lines error := by
  induction lines generalizing number with
  | nil => exact .inl ⟨[], rfl, nofun, .nil⟩
  | cons line rest induction =>
      rw [List.forall_mem_cons]
      by_cases blank : ∀ character ∈ line.toList, Text.isBlank character = true
      · have admits : Admits isa line.toList := .inl blank
        rw [visibleLines_cons_of_blank blank,
          readLines_cons_of_blank _ _ (Text.trim_eq_nil_iff.mpr blank)]
        rcases induction (number + 1) with ⟨words, read, others, held⟩ | ⟨error, failed, later⟩
        · exact .inl ⟨words, read, ⟨admits, others⟩, held⟩
        · exact .inr ⟨error, failed, later.cons admits⟩
      · rw [visibleLines_cons_of_visible blank,
          readLines_cons_of_visible _ _ (Text.trim_eq_nil_iff.not.mpr blank)]
        rcases readWord_cases isa number blank with ⟨word, held, fits, read⟩ | ⟨error, fault, failed⟩
        · have admits : Admits isa line.toList := .inr ⟨word.toNat, fits, held⟩
          rw [read]
          rcases induction (number + 1) with ⟨words, rest, others, later⟩ | ⟨error, failed, later⟩
          · rw [rest]
            exact .inl ⟨word :: words, rfl, ⟨admits, others⟩, .cons held later⟩
          · rw [failed]
            exact .inr ⟨error, rfl, later.cons admits⟩
        · rw [failed]
          exact .inr ⟨error, rfl, 0, line, rfl, nofun, fault⟩

/-- A text is read if and only if each of its lines is blank or has a number that fits the machine,
and its words are these numbers. Otherwise the first line for which this is not so is reported, by
its place among all lines: as a bad word if it has no number of 32 bits, and else as too wide. -/
theorem read_locates_first_fault (isa : Isa) (text : String) :
    ((∃ image, read isa text = .ok image) ↔
      ∀ line ∈ Text.lines text, Admits isa line.toList) ∧
    (∀ image, read isa text = .ok image → image.isa = isa ∧
      List.Forall₂ (fun line (word : Word) => Holds line.toList word.toNat)
        (visibleLines (Text.lines text)) image.words) ∧
    ∀ error, read isa text = .error error →
      ∃ index line, (Text.lines text)[index]? = some line ∧
        (∀ earlier ∈ (Text.lines text).take index, Admits isa earlier.toList) ∧
        ¬Admits isa line.toList ∧ Fault isa (index + 1) line.toList error ∧
        ((∀ value < 2 ^ (32 : Nat), ¬Holds line.toList value) →
          error.message = "line " ++ Numeral.decimalText (index + 1) ++ ": bad hex word " ++
            String.ofList (Text.quoted (Text.trim line.toList))) ∧
        ∀ value < 2 ^ (32 : Nat), Holds line.toList value →
          error.message = "line " ++ Numeral.decimalText (index + 1) ++ ": " ++
            String.ofList (Text.trim line.toList) ++ " does not fit a " ++
            Numeral.decimalText isa.layout.wordBits ++ "-bit word" := by
  unfold read
  rcases readLines_cases isa 1 (Text.lines text) with
    ⟨words, whole, admits, held⟩ | ⟨error, failed, index, line, there, before, fault⟩
  · rw [whole]
    refine ⟨iff_of_true ⟨_, rfl⟩ admits, ?_, nofun⟩
    intro image same
    cases same
    exact ⟨rfl, held⟩
  · rw [failed]
    have offends : ¬∀ line ∈ Text.lines text, Admits isa line.toList :=
      fun admits => fault.not_admits (admits line (List.mem_of_getElem? there))
    refine ⟨iff_of_false nofun offends, nofun, ?_⟩
    intro other same
    cases same
    rw [Nat.add_comm] at fault
    exact ⟨index, line, there, before, fault.not_admits, fault, fault.message_of_none,
      fun _ fits held => fault.message_of_held held fits⟩

/-- A blank line, a word with a plus sign and a zero in front, and the greatest word with letters of
both cases; behind these a number that is one too great, before a line that is no number. -/
theorem read_locates_first_fault_wide :
    (read .ternary "\n +0690a\r\n3fFFF" = .ok ⟨.ternary, [0x690A, 0x3FFFF]⟩ ∧
      List.Forall₂ (fun line (word : Word) => Holds line.toList word.toNat)
        (visibleLines (Text.lines "\n +0690a\r\n3fFFF")) [0x690A, 0x3FFFF]) ∧
    read .ternary "\n +0690a\r\n3fFFF\n 40000\nzz" =
        .error (.tooWide 4 ['4', '0', '0', '0', '0'] 18) ∧
      ∃ index line, (Text.lines "\n +0690a\r\n3fFFF\n 40000\nzz")[index]? = some line ∧
        ¬Admits .ternary line.toList ∧
        Fault .ternary (index + 1) line.toList (.tooWide 4 ['4', '0', '0', '0', '0'] 18) := by
  have succeeded : read .ternary "\n +0690a\r\n3fFFF" = .ok ⟨.ternary, [0x690A, 0x3FFFF]⟩ := by
    decide +kernel
  have failed : read .ternary "\n +0690a\r\n3fFFF\n 40000\nzz" =
      .error (.tooWide 4 ['4', '0', '0', '0', '0'] 18) := by decide +kernel
  rcases (read_locates_first_fault .ternary _).2.2 _ failed with
    ⟨index, line, there, _, offends, fault, _⟩
  exact ⟨⟨succeeded, ((read_locates_first_fault .ternary _).2.1 _ succeeded).2⟩, failed, index, line,
    there, offends, fault⟩

end HexImage

end TwinIsa
