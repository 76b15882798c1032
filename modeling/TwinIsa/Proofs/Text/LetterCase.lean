import Mathlib.Data.List.Forall2
import TwinIsa.Proofs.Text.Cutting
import TwinIsa.Text.Lines
import TwinIsa.Text.Numeral
import TwinIsa.Text.Uppercase

/-!
Texts in lower case, where only ASCII letters change. What is asked of a character is either not
about letters or has the same answer for both cases, which is decided letter by letter; so texts are
cut at the same places in either case, their digits count the same, and their capitals are the same.
-/

namespace TwinIsa.Text

/-! ## Characters -/

/-- To be blind to case it is enough to be so for the 26 letters. -/
theorem apply_toLower {α : Type} {read : Char → α}
    (letters : ∀ index < 26,
      read (Char.ofNat (65 + index)).toLower = read (Char.ofNat (65 + index)))
    (character : Char) : read character.toLower = read character := by
  by_cases capital : character.val ≥ 'A'.val ∧ character.val ≤ 'Z'.val
  · have lower : 65 ≤ character.toNat := capital.1
    have upper : character.toNat ≤ 90 := capital.2
    have same := letters (character.toNat - 65) (by omega)
    rwa [Nat.add_sub_of_le lower, Char.ofNat_toNat] at same
  · have same : character.toLower = character := dif_neg capital
    rw [same]

theorem isBlank_toLower (character : Char) : isBlank character.toLower = isBlank character :=
  apply_toLower (by decide) character

theorem isAlpha_toLower (character : Char) : character.toLower.isAlpha = character.isAlpha :=
  apply_toLower (by decide) character

theorem capitals_toLower (character : Char) : capitals character.toLower = capitals character :=
  apply_toLower (by decide +kernel) character

theorem toLower_of_not_isAlpha {character : Char} (noLetter : character.isAlpha = false) :
    character.toLower = character := by
  have neither : (character.isUpper || character.isLower) = false := noLetter
  exact dif_neg (of_decide_eq_false (Bool.or_eq_false_iff.mp neither).1)

theorem toLower_eq_iff {mark : Char} (noLetter : mark.isAlpha = false) (character : Char) :
    character.toLower = mark ↔ character = mark := by
  constructor
  · rintro rfl
    rw [isAlpha_toLower] at noLetter
    exact (toLower_of_not_isAlpha noLetter).symm
  · rintro rfl
    exact toLower_of_not_isAlpha noLetter

theorem bne_toLower {mark : Char} (noLetter : mark.isAlpha = false) (character : Char) :
    (character.toLower != mark) = (character != mark) := by
  rw [Bool.eq_iff_iff, bne_iff_ne, bne_iff_ne, ne_eq, ne_eq, toLower_eq_iff noLetter]

/-! ## Texts that are cut -/

section

variable {transform : Char → Char}

theorem pieces_map {isSeparator : Char → Bool}
    (same : ∀ character, isSeparator (transform character) = isSeparator character)
    (text : List Char) :
    pieces isSeparator (text.map transform) =
      (pieces isSeparator text).map (List.map transform) := by
  induction text with
  | nil => rfl
  | cons head rest induction =>
      rw [List.map_cons, pieces, pieces, same, induction]
      split
      · rfl
      · cases pieces isSeparator rest <;> rfl

theorem trim_map (same : ∀ character, isBlank (transform character) = isBlank character)
    (text : List Char) : trim (text.map transform) = (trim text).map transform := by
  have blind : isBlank ∘ transform = isBlank := funext same
  rw [trim, List.dropWhile_map, blind, ← List.map_reverse, List.dropWhile_map, blind,
    ← List.map_reverse, trim]

theorem splitLines_map {lineFeed carriageReturn : Char}
    (sameFeed : ∀ character, transform character = lineFeed ↔ character = lineFeed)
    (sameReturn : ∀ character, transform character = carriageReturn ↔ character = carriageReturn)
    (text : List Char) :
    splitLines lineFeed carriageReturn (text.map transform) =
      (splitLines lineFeed carriageReturn text).map (List.map transform) := by
  induction text using splitLines.induct lineFeed carriageReturn with
  | case1 => rfl
  | case2 => simp [splitLines, sameFeed]
  | case3 last noFeed => simp [splitLines, sameFeed, noFeed]
  | case4 next rest induction =>
      rw [List.map_cons] at induction
      simp [splitLines, sameFeed, induction]
  | case5 head next rest noFeed ending induction =>
      rw [splitLines, if_neg noFeed, if_pos ending, List.map_cons, List.map_cons, splitLines,
        if_neg ((sameFeed head).not.mpr noFeed),
        if_pos ⟨(sameReturn head).mpr ending.1, (sameFeed next).mpr ending.2⟩, induction]
      rfl
  | case6 head next rest noFeed noEnding none induction =>
      rw [List.map_cons] at induction
      simp [splitLines, sameFeed, sameReturn, noFeed, noEnding, induction, none]
  | case7 head next rest noFeed noEnding first others cut induction =>
      rw [List.map_cons] at induction
      simp [splitLines, sameFeed, sameReturn, noFeed, noEnding, induction, cut]

end

/-! ## Lower case -/

theorem toList_toLower (text : String) : text.toLower.toList = text.toList.map Char.toLower :=
  String.toList_map

theorem fields_toLower (text : List Char) :
    fields (text.map Char.toLower) = (fields text).map (List.map Char.toLower) := by
  have kept : (fun piece : List Char => !piece.isEmpty) ∘ List.map Char.toLower =
      fun piece => !piece.isEmpty := by
    funext piece
    cases piece <;> rfl
  rw [fields, pieces_map isBlank_toLower, List.filter_map, kept, fields]

theorem uppercase_toLower (text : List Char) :
    uppercase (text.map Char.toLower) = uppercase text := by
  rw [uppercase, List.flatMap_map, uppercase]
  exact List.flatMap_congr fun character _ => capitals_toLower character

theorem lines_toLower (text : String) : lines text.toLower = (lines text).map String.toLower := by
  have isFeed : ∀ character : Char, character.toLower = '\n' ↔ character = '\n' :=
    toLower_eq_iff (by decide)
  have isReturn : ∀ character : Char, character.toLower = '\r' ↔ character = '\r' :=
    toLower_eq_iff (by decide)
  have cut := splitLines_map isFeed isReturn text.toList
  rw [lines, toList_toLower, cut, lines, List.map_map, List.map_map]
  apply List.map_congr_left
  intro line _
  apply String.toList_injective
  simp [toList_toLower]

theorem forall₂_lines {text other : String} (same : text.toLower = other.toLower) :
    List.Forall₂ (fun line otherLine => line.toLower = otherLine.toLower) (lines text)
      (lines other) := by
  have sameLines : (lines text).map String.toLower = (lines other).map String.toLower := by
    rw [← lines_toLower, ← lines_toLower, same]
  rwa [← List.forall₂_eq_eq_eq, List.forall₂_map_left_iff, List.forall₂_map_right_iff]
    at sameLines

end TwinIsa.Text

namespace TwinIsa.Numeral

/-! ## Numerals -/

theorem digit?_toLower (base : Nat) (character : Char) :
    digit? base character.toLower = digit? base character := by
  have sameValue : digitValue? character.toLower = digitValue? character :=
    Text.apply_toLower (by decide) character
  rw [digit?, sameValue, digit?]

theorem isDigit_toLower (base : Nat) (character : Char) :
    isDigit base character.toLower = isDigit base character := by
  rw [isDigit, digit?_toLower, isDigit]

theorem all_isDigit_toLower (base : Nat) (text : List Char) :
    (text.map Char.toLower).all (isDigit base) = text.all (isDigit base) := by
  rw [List.all_map]
  congr 1
  funext character
  exact isDigit_toLower base character

theorem read?_toLower (base : Nat) (text : List Char) :
    read? base (text.map Char.toLower) = read? base text := by
  have sameValue : value base (text.map Char.toLower) = value base text := by
    rw [value, valueFrom, List.foldl_map, value, valueFrom]
    simp only [digit?_toLower]
  rw [read?, all_isDigit_toLower, sameValue, List.isEmpty_map, read?]

end TwinIsa.Numeral
