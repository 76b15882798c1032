import Mathlib.Data.List.Forall2
import Mathlib.Data.List.TakeWhile
import TwinIsa.ProgramImage
import TwinIsa.Proofs.HexText
import TwinIsa.Proofs.Text.Cutting
import TwinIsa.Proofs.Text.LineEndings

/-!
The ways to spell an image. Blanks around a word, lines of blanks and capital digits make no
difference to the words that are read, and a carriage return before a line feed is a blank like any
other; a word that does not fit the machine is reported wherever it stands, with its line as it is
written. The text that an image is written as is one of these spellings.
-/

namespace TwinIsa

/-! ## Blanks at both ends -/

namespace Text

def IsMargin (text : List Char) : Prop :=
  ∀ character ∈ text, isBlank character = true ∧ character ≠ '\n'

instance (text : List Char) : Decidable (IsMargin text) :=
  List.decidableBAll _ text

theorem trim_between {before text after : List Char} (marginBefore : IsMargin before)
    (marginAfter : IsMargin after)
    (clean : ∀ character ∈ text, isBlank character = false) :
    trim (before ++ text ++ after) = text := by
  rw [trim_eq_iff clean]
  exact ⟨before, after, fun character member => (marginBefore character member).1,
    fun character member => (marginAfter character member).1, rfl⟩

theorem trim_of_margin {line : List Char} (margin : IsMargin line) : trim line = [] :=
  trim_eq_nil_iff.mpr fun character member => (margin character member).1

theorem trim_chomp (line : List Char) : trim (chomp '\r' line) = trim line := by
  rcases line.eq_nil_or_concat' with rfl | ⟨front, last, rfl⟩
  · rfl
  · rw [chomp_concat]
    split
    next isReturn =>
      refine (trim_append_blanks ?_ front).symm
      rw [isReturn, List.forall_mem_singleton]
      rfl
    next => rfl

end Text

/-! ## Capital digits -/

def Text.Recases (text written : List Char) : Prop :=
  List.Forall₂ (fun character other => other = character ∨ other = character.toUpper) text written

instance (text written : List Char) : Decidable (Text.Recases text written) :=
  inferInstanceAs (Decidable (List.Forall₂ _ text written))

namespace Numeral

theorem digit?_of_recased : ∀ digit < 16, ∀ other : Char,
    other = digit.digitChar ∨ other = digit.digitChar.toUpper →
      digit? 16 other = some digit ∧ Text.isBlank other = false ∧ other ≠ '\n' := by
  rintro digit less other (rfl | rfl)
  · revert digit
    decide
  · revert digit
    decide

theorem of_recases {text written : List Char}
    (digits : ∀ character ∈ text, ∃ digit < 16, character = digit.digitChar)
    (recased : Text.Recases text written) :
    (∀ character ∈ written, isDigit 16 character = true ∧ Text.isBlank character = false ∧
        character ≠ '\n') ∧
      ∀ leading, valueFrom 16 leading written = valueFrom 16 leading text := by
  induction recased with
  | nil => exact ⟨nofun, fun _ => rfl⟩
  | @cons character other text written same _ induction =>
      rw [List.forall_mem_cons] at digits
      rcases digits.1 with ⟨digit, less, rfl⟩
      rcases digit?_of_recased digit less other same with ⟨found, noBlank, noFeed⟩
      rcases induction digits.2 with ⟨clean, value⟩
      have plain := (digit?_of_recased digit less _ (.inl rfl)).1
      refine ⟨List.forall_mem_cons.mpr ⟨⟨by rw [isDigit, found]; rfl, noBlank, noFeed⟩, clean⟩, ?_⟩
      intro leading
      rw [valueFrom, valueFrom, List.foldl_cons, List.foldl_cons, found, plain]
      exact value _

end Numeral

/-! ## Lines that spell words -/

namespace HexImage

variable {isa : Isa} {words : List Word} {lines : List (List Char)} {word : Word}

/-- Lines that spell words one by one: a word is in hexadecimal digits of either case, with blanks
around it, and blank lines may stand anywhere. -/
inductive Spells (isa : Isa) : List Word → List (List Char) → Prop
  | nil : Spells isa [] []
  | blank {words : List Word} {line : List Char} {lines : List (List Char)}
      (margin : Text.IsMargin line) (rest : Spells isa words lines) :
      Spells isa words (line :: lines)
  | word {word : Word} {words : List Word} {before digits after : List Char}
      {lines : List (List Char)} (marginBefore : Text.IsMargin before)
      (marginAfter : Text.IsMargin after)
      (recased : Text.Recases (isa.formatWord word).toList digits)
      (rest : Spells isa words lines) :
      Spells isa (word :: words) ((before ++ digits ++ after) :: lines)

section

variable {digits : List Char} (recased : Text.Recases (isa.formatWord word).toList digits)
include recased

theorem clean_of_recases :
    ∀ character ∈ digits, Numeral.isDigit 16 character = true ∧
      Text.isBlank character = false ∧ character ≠ '\n' :=
  (Numeral.of_recases (fun _ member => Isa.exists_digit_of_mem_formatWord member) recased).1

theorem ne_nil_of_recases : digits ≠ [] := by
  rintro rfl
  exact isa.formatWord_ne_nil word (List.forall₂_nil_right_iff.mp recased)

theorem readWord_of_recases (number : Nat) :
    readWord isa number digits =
      if word.toNat < 2 ^ isa.layout.wordBits then .ok word
      else .error (.tooWide number digits isa.layout.wordBits) := by
  have value : Numeral.value 16 digits = word.toNat := by
    rw [Numeral.value, (Numeral.of_recases
      (fun _ member => Isa.exists_digit_of_mem_formatWord member) recased).2, Isa.formatWord,
      String.toList_ofList]
    exact Numeral.value_paddedDigits (by decide) (by decide) _ _
  have read := readNumber_of_digits (ne_nil_of_recases recased)
    (fun character member => (clean_of_recases recased character member).1)
    (by rw [value]; exact word.toNat_lt)
  rw [readWord, read, value]
  dsimp only
  rw [UInt32.ofNat_toNat]

end

theorem Spells.lineFeed_not_mem (spells : Spells isa words lines) :
    ∀ line ∈ lines, '\n' ∉ line := by
  induction spells with
  | nil => exact nofun
  | blank margin _ induction =>
      rw [List.forall_mem_cons]
      exact ⟨fun feed => (margin _ feed).2 rfl, induction⟩
  | word marginBefore marginAfter recased _ induction =>
      rw [List.forall_mem_cons]
      refine ⟨?_, induction⟩
      simp only [List.mem_append, not_or]
      exact ⟨⟨fun feed => (marginBefore _ feed).2 rfl,
        fun feed => (clean_of_recases recased _ feed).2.2 rfl⟩,
        fun feed => (marginAfter _ feed).2 rfl⟩

/-! ## Reading lines -/

section

variable {line : List Char} (number : Nat) (rest : List String)

theorem readLines_blank (margin : Text.IsMargin line) :
    readLines isa number (String.ofList (Text.chomp '\r' line) :: rest) =
      readLines isa (number + 1) rest := by
  apply readLines_cons_of_blank
  rw [String.toList_ofList, Text.trim_chomp, Text.trim_of_margin margin]

theorem readLines_word {digits : List Char} (nonempty : digits ≠ [])
    (trimmed : Text.trim line = digits) :
    readLines isa number (String.ofList (Text.chomp '\r' line) :: rest) =
      (do
        let word ← readWord isa number digits
        let words ← readLines isa (number + 1) rest
        return word :: words) := by
  have whole : Text.trim (String.ofList (Text.chomp '\r' line)).toList = digits := by
    rw [String.toList_ofList, Text.trim_chomp, trimmed]
  rw [readLines_cons_of_visible _ _ (whole.symm ▸ nonempty), whole]

end

theorem Spells.readLines_eq_ok (spells : Spells isa words lines)
    (fit : ∀ word ∈ words, word.toNat < 2 ^ isa.layout.wordBits) (number : Nat) :
    readLines isa number (lines.map fun line => String.ofList (Text.chomp '\r' line)) =
      .ok words := by
  induction spells generalizing number with
  | nil => rfl
  | blank margin _ induction => rw [List.map_cons, readLines_blank _ _ margin, induction fit]
  | word marginBefore marginAfter recased _ induction =>
      rw [List.forall_mem_cons] at fit
      have trimmed := Text.trim_between marginBefore marginAfter fun character member =>
        (clean_of_recases recased character member).2.1
      rw [List.map_cons, readLines_word _ _ (ne_nil_of_recases recased) trimmed,
        readWord_of_recases recased, if_pos fit.1, induction fit.2]
      rfl

theorem Spells.length_le (spells : Spells isa words lines) : words.length ≤ lines.length := by
  induction spells with
  | nil => exact Nat.le_refl 0
  | blank _ _ induction => exact Nat.le_succ_of_le induction
  | word _ _ _ _ induction => exact Nat.succ_le_succ induction

/-- The first word that does not fit is reported with the number and the text of its line. The
lines before it spell the words before, and those behind it the words behind. -/
theorem Spells.readLines_eq_error (spells : Spells isa words lines) {position : Nat}
    (found : words[position]? = some word) (wide : ¬word.toNat < 2 ^ isa.layout.wordBits)
    (fit : ∀ earlier ∈ words.take position, earlier.toNat < 2 ^ isa.layout.wordBits)
    (number : Nat) :
    ∃ index line, lines[index]? = some line ∧
      Spells isa (words.take position) (lines.take index) ∧ Spells isa [word] [line] ∧
      Spells isa (words.drop (position + 1)) (lines.drop (index + 1)) ∧
      readLines isa number (lines.map fun line => String.ofList (Text.chomp '\r' line)) =
        .error (.tooWide (number + index) (Text.trim line) isa.layout.wordBits) := by
  induction spells generalizing position number with
  | nil => contradiction
  | blank margin _ induction =>
      rcases induction found fit (number + 1) with
        ⟨index, line, there, before, same, behind, failed⟩
      refine ⟨index + 1, line, there, .blank margin before, same, behind, ?_⟩
      rw [List.map_cons, readLines_blank _ _ margin, failed, Nat.add_right_comm, Nat.add_assoc]
  | word marginBefore marginAfter recased rest induction =>
      have trimmed := Text.trim_between marginBefore marginAfter fun character member =>
        (clean_of_recases recased character member).2.1
      cases position with
      | zero =>
          cases found
          refine ⟨0, _, rfl, .nil, .word marginBefore marginAfter recased .nil, rest, ?_⟩
          rw [List.map_cons, readLines_word _ _ (ne_nil_of_recases recased) trimmed,
            readWord_of_recases recased, if_neg wide, trimmed]
          rfl
      | succ position =>
          rw [List.take_succ_cons, List.forall_mem_cons] at fit
          rcases induction found fit.2 (number + 1) with
            ⟨index, line, there, before, same, behind, failed⟩
          refine ⟨index + 1, line, there, .word marginBefore marginAfter recased before, same,
            behind, ?_⟩
          rw [List.map_cons, readLines_word _ _ (ne_nil_of_recases recased) trimmed,
            readWord_of_recases recased, if_pos fit.1, failed, Nat.add_right_comm, Nat.add_assoc]
          rfl

/-! ## Reading texts -/

theorem Spells.read_ofLines (spells : Spells isa words lines) :
    read isa (Text.ofLines lines) = do
      let words ← readLines isa 1 (lines.map fun line => String.ofList (Text.chomp '\r' line))
      return ⟨isa, words⟩ := by
  rw [read, Text.lines_ofLines spells.lineFeed_not_mem]

theorem Spells.read_eq_ok (spells : Spells isa words lines)
    (fit : ∀ word ∈ words, word.toNat < 2 ^ isa.layout.wordBits) :
    read isa (Text.ofLines lines) = .ok ⟨isa, words⟩ := by
  rw [spells.read_ofLines, spells.readLines_eq_ok fit]
  rfl

theorem Spells.read_eq_error (spells : Spells isa words lines) {position : Nat}
    (found : words[position]? = some word) (wide : ¬word.toNat < 2 ^ isa.layout.wordBits)
    (fit : ∀ earlier ∈ words.take position, earlier.toNat < 2 ^ isa.layout.wordBits) :
    ∃ index line, lines[index]? = some line ∧
      Spells isa (words.take position) (lines.take index) ∧ Spells isa [word] [line] ∧
      Spells isa (words.drop (position + 1)) (lines.drop (index + 1)) ∧
      read isa (Text.ofLines lines) =
        .error (.tooWide (index + 1) (Text.trim line) isa.layout.wordBits) := by
  rcases spells.readLines_eq_error found wide fit 1 with
    ⟨index, line, there, before, same, behind, failed⟩
  refine ⟨index, line, there, before, same, behind, ?_⟩
  rw [spells.read_ofLines, failed, Nat.add_comm]
  rfl

theorem exists_first_wide (wide : ¬∀ word ∈ words, word.toNat < 2 ^ isa.layout.wordBits) :
    ∃ position word, words[position]? = some word ∧ ¬word.toNat < 2 ^ isa.layout.wordBits ∧
      ∀ earlier ∈ words.take position, earlier.toNat < 2 ^ isa.layout.wordBits := by
  induction words with
  | nil => exact absurd nofun wide
  | cons head rest induction =>
      by_cases fits : head.toNat < 2 ^ isa.layout.wordBits
      · rw [List.forall_mem_cons, and_iff_right fits] at wide
        rcases induction wide with ⟨position, word, found, tooWide, earlier⟩
        refine ⟨position + 1, word, found, tooWide, ?_⟩
        rw [List.take_succ_cons, List.forall_mem_cons]
        exact ⟨fits, earlier⟩
      · exact ⟨0, head, rfl, fits, nofun⟩

theorem Spells.exists_read_iff (spells : Spells isa words lines) :
    (∃ image, read isa (Text.ofLines lines) = .ok image) ↔
      ∀ word ∈ words, word.toNat < 2 ^ isa.layout.wordBits := by
  constructor
  · rintro ⟨image, succeeded⟩
    by_contra wide
    rcases exists_first_wide wide with ⟨position, word, found, tooWide, fit⟩
    rcases spells.read_eq_error found tooWide fit with ⟨_, _, _, _, _, _, failed⟩
    rw [succeeded] at failed
    cases failed
  · exact fun fit => ⟨_, spells.read_eq_ok fit⟩

theorem Spells.eq_of_read (spells : Spells isa words lines) {image : HexImage}
    (succeeded : read isa (Text.ofLines lines) = .ok image) : image = ⟨isa, words⟩ := by
  have fit := spells.exists_read_iff.mp ⟨image, succeeded⟩
  rw [spells.read_eq_ok fit] at succeeded
  exact (Except.ok.inj succeeded).symm

/-! ## Written images -/

theorem spells_formatWord (isa : Isa) (words : List Word) :
    Spells isa words (words.map fun word => (isa.formatWord word).toList) := by
  induction words with
  | nil => exact .nil
  | cons word rest induction =>
      have plain : Text.Recases (isa.formatWord word).toList (isa.formatWord word).toList :=
        List.forall₂_same.mpr fun _ _ => .inl rfl
      have spells : Spells isa (word :: rest) (([] ++ (isa.formatWord word).toList ++ []) ::
          rest.map fun word => (isa.formatWord word).toList) := .word nofun nofun plain induction
      rwa [List.nil_append, List.append_nil] at spells

theorem read_formatWord_eq_error {position : Nat} (found : words[position]? = some word)
    (wide : ¬word.toNat < 2 ^ isa.layout.wordBits)
    (fit : ∀ earlier ∈ words.take position, earlier.toNat < 2 ^ isa.layout.wordBits) :
    read isa (Text.ofLines (words.map fun word => (isa.formatWord word).toList)) =
      .error (.tooWide (position + 1) (isa.formatWord word).toList isa.layout.wordBits) := by
  rcases (spells_formatWord isa words).read_eq_error found wide fit with
    ⟨index, line, there, before, _, behind, failed⟩
  -- As many lines as words leave no blank line on either side of the word.
  have sameIndex : index = position := by
    have leBefore := before.length_le
    have leBehind := behind.length_le
    have withinWords := (List.getElem?_eq_some_iff.mp found).1
    have withinLines := (List.getElem?_eq_some_iff.mp there).1
    rw [List.length_map] at withinLines
    simp only [List.length_take, List.length_drop, List.length_map] at leBefore leBehind
    omega
  rw [sameIndex] at there failed
  have sameLine : line = (isa.formatWord word).toList := by
    rw [List.getElem?_map, found, Option.map_some] at there
    exact (Option.some.inj there).symm
  rw [failed, sameLine, Text.trim_of_clean Isa.isBlank_formatWord]

end HexImage

theorem ProgramImage.hexText_eq (image : ProgramImage) :
    image.hexText = Text.ofLines
      (image.words.toList.map fun word => (image.isa.formatWord word).toList) := by
  rw [hexText, Text.join_eq_ofLines, hexLines, List.map_map]
  rfl

theorem ProgramImage.lines_hexText (image : ProgramImage) :
    Text.lines image.hexText = image.hexLines := by
  apply Text.lines_join
  intro line member
  rcases List.mem_map.mp member with ⟨word, _, rfl⟩
  constructor
  · intro feed
    exact absurd (Isa.isBlank_formatWord _ feed) (by decide)
  · intro feed
    exact absurd (Isa.isBlank_formatWord _ feed) (by decide)

theorem HexImage.read_hexText (image : ProgramImage)
    (fit : ∀ word ∈ image.words.toList, word.toNat < 2 ^ image.isa.layout.wordBits) :
    read image.isa image.hexText = .ok ⟨image.isa, image.words.toList⟩ := by
  rw [image.hexText_eq]
  exact (spells_formatWord image.isa image.words.toList).read_eq_ok fit

/-- The text of an image has a line for each word, and it is read if and only if all words fit the
machine, as just these words; otherwise the first that does not fit is reported by its line. Every
other spelling of the words is read alike, and reports the same word by the line that it stands on,
as the line is written. -/
theorem HexImage.read_spellings (image : ProgramImage) :
    (Text.lines image.hexText = image.hexLines ∧
      ((∀ word ∈ image.words.toList, word.toNat < 2 ^ image.isa.layout.wordBits) →
        ∀ line ∈ image.hexLines, line.length = image.isa.hexDigits ∧
          ∀ character ∈ line.toList, character ∈ "0123456789abcdef".toList)) ∧
    ((∃ contents, read image.isa image.hexText = .ok contents) ↔
      ∀ word ∈ image.words.toList, word.toNat < 2 ^ image.isa.layout.wordBits) ∧
    (∀ contents, read image.isa image.hexText = .ok contents →
      contents = ⟨image.isa, image.words.toList⟩) ∧
    (∀ position word, image.words.toList[position]? = some word →
      ¬word.toNat < 2 ^ image.isa.layout.wordBits →
      (∀ earlier ∈ image.words.toList.take position,
        earlier.toNat < 2 ^ image.isa.layout.wordBits) →
      read image.isa image.hexText =
        .error (.tooWide (position + 1) (image.isa.formatWord word).toList
          image.isa.layout.wordBits)) ∧
    ∀ lines, Spells image.isa image.words.toList lines →
      ((∃ contents, read image.isa (Text.ofLines lines) = .ok contents) ↔
        ∀ word ∈ image.words.toList, word.toNat < 2 ^ image.isa.layout.wordBits) ∧
      (∀ contents, read image.isa (Text.ofLines lines) = .ok contents →
        contents = ⟨image.isa, image.words.toList⟩) ∧
      ∀ position word, image.words.toList[position]? = some word →
        ¬word.toNat < 2 ^ image.isa.layout.wordBits →
        (∀ earlier ∈ image.words.toList.take position,
          earlier.toNat < 2 ^ image.isa.layout.wordBits) →
        ∃ index line, lines[index]? = some line ∧
          Spells image.isa (image.words.toList.take position) (lines.take index) ∧
          Spells image.isa [word] [line] ∧
          read image.isa (Text.ofLines lines) =
            .error (.tooWide (index + 1) (Text.trim line) image.isa.layout.wordBits) := by
  have written := spells_formatWord image.isa image.words.toList
  refine ⟨⟨image.lines_hexText, ?_⟩, ?_, ?_, ?_, ?_⟩
  · intro fit line member
    rcases List.mem_map.mp member with ⟨word, inWords, rfl⟩
    refine ⟨Isa.length_formatWord (fit word inWords), fun character inLine => ?_⟩
    have lowerCase : ∀ digit < 16, digit.digitChar ∈ "0123456789abcdef".toList := by decide
    rcases Isa.exists_digit_of_mem_formatWord inLine with ⟨digit, less, rfl⟩
    exact lowerCase digit less
  · rw [image.hexText_eq]
    exact written.exists_read_iff
  · rw [image.hexText_eq]
    exact fun _ => written.eq_of_read
  · intro position word found wide fit
    rw [image.hexText_eq]
    exact read_formatWord_eq_error found wide fit
  · intro lines spells
    refine ⟨spells.exists_read_iff, fun _ => spells.eq_of_read, ?_⟩
    intro position word found wide fit
    rcases spells.read_eq_error found wide fit with
      ⟨index, line, there, before, same, _, failed⟩
    exact ⟨index, line, there, before, same, failed⟩

/-- Two words with capital digits, blanks and blank lines around them, and carriage returns before
the line feeds. -/
theorem HexImage.read_spellings_carriageReturns :
    read .binary "\r\n 690A\t\r\n\u3000\r\nd0a0\r\n" = .ok ⟨.binary, [0x690A, 0xD0A0]⟩ := by
  have spells : Spells .binary [0x690A, 0xD0A0]
      [['\r'], [' ', '6', '9', '0', 'A', '\t', '\r'], ['\u3000', '\r'],
        ['d', '0', 'a', '0', '\r']] := by
    refine .blank (by decide) ?_
    refine @Spells.word _ _ _ [' '] ['6', '9', '0', 'A'] ['\t', '\r'] _
      (by decide) (by decide) (by decide) ?_
    refine .blank (by decide) ?_
    exact @Spells.word _ _ _ [] ['d', '0', 'a', '0'] ['\r'] _
      (by decide) (by decide) (by decide) .nil
  rcases (read_spellings ⟨.binary, 2, #[0x690A, 0xD0A0]⟩).2.2.2.2 _ spells with ⟨reads, same, _⟩
  have fit : ∀ word ∈ ([0x690A, 0xD0A0] : List Word), word.toNat < 2 ^ Isa.binary.layout.wordBits :=
    List.forall_mem_cons.mpr ⟨by decide, List.forall_mem_singleton.mpr (by decide)⟩
  rcases reads.mpr fit with ⟨contents, succeeded⟩
  rw [same contents succeeded] at succeeded
  exact succeeded

end TwinIsa
