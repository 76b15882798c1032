import Mathlib.Data.List.Basic
import TwinIsa.Json.Writer
import TwinIsa.Proofs.Json.Scalars

/-!
The tokens of a written document. A scan that starts between tokens reads what is written for a
value as the tokens of the value, at any level and whatever is behind it, as long as that does not
run into a scalar. Line feeds, indentation and the blank behind a colon leave no token.
-/

namespace TwinIsa.Json

/-! ## Tokens of values -/

mutual

def tokens : Json → List Token
  | text value => [.string (some value)]
  | unreadable => [.string none]
  | array items => .openArray :: itemTokens items ++ [.closeArray]
  | object fields => .openObject :: fieldTokens fields ++ [.closeObject]
  | value => [.scalar value]

def itemTokens : List Json → List Token
  | [] => []
  | [last] => tokens last
  | head :: next :: rest => tokens head ++ .comma :: itemTokens (next :: rest)

def fieldTokens : List (String × Json) → List Token
  | [] => []
  | [(name, value)] => .string (some name) :: .colon :: tokens value
  | (name, value) :: next :: rest =>
      .string (some name) :: .colon :: tokens value ++ .comma :: fieldTokens (next :: rest)

end

/-- A value whose reals are spelled as numbers that are not integers. -/
inductive WellSpelled : Json → Prop
  | null : WellSpelled null
  | boolean (value : Bool) : WellSpelled (boolean value)
  | integer (value : Int) : WellSpelled (integer value)
  | real {spelling : String} (number : scalar? spelling.toList = some (real spelling)) :
      WellSpelled (real spelling)
  | text (value : String) : WellSpelled (text value)
  | array {items : List Json} (each : ∀ item ∈ items, WellSpelled item) :
      WellSpelled (array items)
  | object {fields : List (String × Json)} (each : ∀ field ∈ fields, WellSpelled field.2) :
      WellSpelled (object fields)
  | unreadable : WellSpelled unreadable

namespace Scan

/-! ## Passing over a text -/

/-- Reading the text completes these tokens and brings the scan to another place, whatever is
behind the text. -/
def Passes (scan : Scan) (text : List Char) (completed : List Token) (next : Scan) : Prop :=
  ∀ rest, scan.tokens? (text ++ rest) = (next.tokens? rest).map (completed ++ ·)

def Delimited (text : List Char) : Prop :=
  ∀ head ∈ text.head?, endsScalar head = true

/-- The text spells these tokens, provided that its last one ends where the text does. -/
def Spells (text : List Char) (completed : List Token) : Prop :=
  ∀ rest, Delimited rest →
    between.tokens? (text ++ rest) = (between.tokens? rest).map (completed ++ ·)

variable {scan next last : Scan} {text later : List Char} {completed more : List Token}
  {spelled : List Piece}

theorem Passes.nil (scan : Scan) : Passes scan [] [] scan := by
  intro rest
  simp

theorem Passes.step {character : Char} (step : scan.step character = some (next, completed)) :
    Passes scan [character] completed next := by
  intro rest
  rw [List.singleton_append, tokens?, step]
  exact Option.map_eq_bind.symm

theorem Passes.silent (passes : Passes scan text [] next) (rest : List Char) :
    scan.tokens? (text ++ rest) = next.tokens? rest := by
  rw [passes, List.nil_append_fun]
  exact Option.map_id_apply

theorem Passes.append (front : Passes scan text completed next)
    (back : Passes next later more last) :
    Passes scan (text ++ later) (completed ++ more) last := by
  intro rest
  rw [List.append_assoc, front, back, Option.map_map]
  simp [Function.comp_def, List.append_assoc]

theorem Passes.spells (passes : Passes between text completed between) :
    Spells text completed :=
  fun rest _ => passes rest

theorem Passes.append_spells (front : Passes between text completed between)
    (back : Spells later more) : Spells (text ++ later) (completed ++ more) := by
  intro rest delimited
  rw [List.append_assoc, front, back rest delimited, Option.map_map]
  simp [Function.comp_def, List.append_assoc]

theorem Spells.append {character : Char} (front : Spells text completed)
    (back : Passes between (character :: later) more next)
    (ends : endsScalar character = true) :
    Passes between (text ++ character :: later) (completed ++ more) next := by
  intro rest
  have delimited : Delimited (character :: later ++ rest) := by
    rintro head ⟨⟩
    exact ends
  rw [List.append_assoc, front _ delimited, back, Option.map_map]
  simp [Function.comp_def, List.append_assoc]

/-! ## Blanks -/

theorem passes_blank {character : Char} (space : isSpace character = true) :
    Passes between [character] [] between :=
  .step (by rw [Scan.step, start, if_pos space])

theorem passes_indentation (level : Nat) : Passes between (indentation level) [] between := by
  rw [indentation]
  induction 2 * level with
  | zero => exact .nil between
  | succ count induction => exact (passes_blank (by decide)).append induction

/-! ## Scalars -/

theorem start_of_unbroken {character : Char} (unbroken : endsScalar character = false) :
    start character = (scalar [character], []) := by
  simp only [endsScalar, Bool.or_eq_false_iff, beq_eq_false_iff_ne] at unbroken
  rcases unbroken with ⟨⟨noSpace, noQuote⟩, noPunctuation⟩
  rw [start, noSpace, if_neg (by decide), if_neg noQuote]
  rw [Option.isSome_eq_false_iff, Option.isNone_iff_eq_none] at noPunctuation
  rw [noPunctuation]

theorem passes_unbroken {spelling : List Char} (unbroken : Unbroken spelling)
    (front : List Char) :
    Passes (scalar front) spelling [] (scalar (spelling.reverse ++ front)) := by
  induction spelling generalizing front with
  | nil => exact .nil (scalar front)
  | cons head rest induction =>
      rw [unbroken_cons] at unbroken
      have first : Passes (scalar front) [head] [] (scalar (head :: front)) :=
        .step (by rw [Scan.step, unbroken.1]; rfl)
      rw [List.reverse_cons, List.append_assoc]
      exact first.append (induction unbroken.2 (head :: front))

theorem tokens?_scalar {front rest : List Char} {value : Json}
    (read : scalar? front.reverse = some value) (delimited : Delimited rest) :
    (scalar front).tokens? rest = (between.tokens? rest).map ([.scalar value] ++ ·) := by
  cases rest with
  | nil => simp [tokens?, finish, read]
  | cons head rest =>
      have ends : endsScalar head = true := delimited head rfl
      have ended : (scalar front).step head =
          some ((start head).1, .scalar value :: (start head).2) := by
        rw [Scan.step, if_pos ends, read]
        rfl
      rw [tokens?, ended, tokens?]
      cases later : (start head).1.tokens? rest <;> simp [Scan.step, later]

theorem spells_scalar {spelling : List Char} {value : Json}
    (read : scalar? spelling = some value) : Spells spelling [.scalar value] := by
  intro rest delimited
  cases spelling with
  | nil => contradiction
  | cons first others =>
      have unbroken := unbroken_cons.mp (unbroken_of_scalar? read)
      have begun : Passes between [first] [] (scalar [first]) :=
        .step (by rw [Scan.step, start_of_unbroken unbroken.1])
      have passed := begun.append (passes_unbroken unbroken.2 [first])
      rw [← List.reverse_cons] at passed
      rw [← List.singleton_append, passed.silent]
      exact tokens?_scalar (by rwa [List.reverse_reverse]) delimited

/-! ## Strings -/

inductive Stands (character : Char) : Piece → Prop
  | character : Stands character (.character character)
  | unit (control : character.toNat < 0x20) : Stands character (.unit character.toNat)

theorem Stands.join?_cons {character : Char} {piece : Piece} (stands : Stands character piece)
    (rest : List Piece) :
    Piece.join? (piece :: rest) = (Piece.join? rest).map (character :: ·) := by
  cases stands with
  | character => rw [Piece.join?]
  | unit control =>
      have noHigh : ¬(0xD800 ≤ character.toNat ∧ character.toNat < 0xDC00) := by omega
      have noLow : ¬(0xDC00 ≤ character.toNat ∧ character.toNat < 0xE000) := by omega
      have noSurrogate : ¬(0xD800 ≤ character.toNat ∧ character.toNat < 0xE000) := by omega
      match rest with
      | [] => simp [Piece.join?, noSurrogate, Char.ofNat_toNat]
      | .character other :: rest => simp [Piece.join?, noSurrogate, Char.ofNat_toNat]
      | .unit low :: rest => rw [Piece.join?, if_neg noHigh, if_neg noLow, Char.ofNat_toNat]

theorem passes_letter {letter value : Char} (escaped : escapedCharacter? letter = some value)
    (spelled : List Piece) :
    Passes (string spelled) ['\\', letter] [] (string (.character value :: spelled)) := by
  have noUnit : letter ≠ 'u' := by
    rintro rfl
    contradiction
  have begun : Passes (string spelled) ['\\'] [] (escape spelled) := .step rfl
  have ended : Passes (escape spelled) [letter] [] (string (.character value :: spelled)) :=
    .step (by rw [Scan.step, if_neg noUnit, escaped]; rfl)
  exact begun.append ended

theorem passes_unit {code : Nat} (fits : code < 0x10000) (spelled : List Piece) :
    Passes (string spelled) ('\\' :: 'u' :: Numeral.paddedDigits 16 4 code) []
      (string (.unit code :: spelled)) := by
  have short : (Numeral.digits 16 code).length ≤ 4 :=
    (Nat.length_toDigits_le_iff (by decide) (by decide)).mpr fits
  have four := Numeral.length_paddedDigits short
  have digit : ∀ character ∈ Numeral.paddedDigits 16 4 code,
      Numeral.isDigit 16 character = true :=
    fun _ => Numeral.isDigit_of_mem_paddedDigits (by decide) (by decide)
  have value : Numeral.value 16 (Numeral.paddedDigits 16 4 code) = code :=
    Numeral.value_paddedDigits (by decide) (by decide) 4 code
  rcases List.length_eq_four.mp four with ⟨first, second, third, fourth, written⟩
  rw [written] at digit value ⊢
  simp only [List.forall_mem_cons] at digit
  rcases digit with ⟨firstDigit, secondDigit, thirdDigit, fourthDigit, _⟩
  have escaped : Passes (string spelled) ['\\'] [] (escape spelled) := .step rfl
  have numbered : Passes (escape spelled) ['u'] [] (number spelled []) := .step rfl
  -- A scan counts the digits that it has read, so each of the four is a step of its own.
  have afterOne : Passes (number spelled []) [first] [] (number spelled [first]) :=
    .step (by rw [Scan.step, if_pos firstDigit]; rfl)
  have afterTwo : Passes (number spelled [first]) [second] [] (number spelled [second, first]) :=
    .step (by rw [Scan.step, if_pos secondDigit]; rfl)
  have afterThree : Passes (number spelled [second, first]) [third] []
      (number spelled [third, second, first]) :=
    .step (by rw [Scan.step, if_pos thirdDigit]; rfl)
  have afterFour : Passes (number spelled [third, second, first]) [fourth] []
      (string (.unit code :: spelled)) :=
    .step (by rw [Scan.step, if_pos fourthDigit, ← value]; rfl)
  exact escaped.append (numbered.append
    (afterOne.append (afterTwo.append (afterThree.append afterFour))))

theorem escape_cases (character : Char) :
    (∃ letter, Json.escape character = ['\\', letter] ∧
        escapedCharacter? letter = some character) ∨
      (Json.escape character = '\\' :: 'u' :: Numeral.paddedDigits 16 4 character.toNat ∧
        character.toNat < 0x20) ∨
      (Json.escape character = [character] ∧ character ≠ '"' ∧ character ≠ '\\' ∧
        ¬character.toNat < 0x20) := by
  by_cases named : character ∈ ['"', '\\', '\x08', '\x0c', '\n', '\r', '\t']
  · left
    simp only [List.mem_cons, List.not_mem_nil, or_false] at named
    rcases named with rfl | rfl | rfl | rfl | rfl | rfl | rfl <;> exact ⟨_, rfl, rfl⟩
  · right
    simp only [List.mem_cons, List.not_mem_nil, or_false, not_or] at named
    by_cases control : character.toNat < 0x20
    · left
      simp [Json.escape, named, control]
    · right
      simp [Json.escape, named, control]

theorem exists_passes_escape (character : Char) (spelled : List Piece) :
    ∃ piece, Stands character piece ∧
      Passes (string spelled) (Json.escape character) [] (string (piece :: spelled)) := by
  rcases escape_cases character with
    ⟨letter, written, escaped⟩ | ⟨written, control⟩ | ⟨written, noQuote, noBackslash, noControl⟩
  · exact ⟨_, .character, written ▸ passes_letter escaped spelled⟩
  · have fits : character.toNat < 0x10000 := Nat.lt_trans control (by decide)
    exact ⟨_, .unit control, written ▸ passes_unit fits spelled⟩
  · have plain : Passes (string spelled) [character] []
        (string (.character character :: spelled)) :=
      .step (by rw [Scan.step, if_neg noQuote, if_neg noBackslash, if_neg noControl])
    exact ⟨_, .character, written ▸ plain⟩

theorem exists_passes_flatMap_escape (content : List Char) (spelled : List Piece) :
    ∃ pieces, Piece.join? pieces = some content ∧
      Passes (string spelled) (content.flatMap Json.escape) []
        (string (pieces.reverse ++ spelled)) := by
  induction content generalizing spelled with
  | nil => exact ⟨[], rfl, .nil (string spelled)⟩
  | cons head rest induction =>
      rcases exists_passes_escape head spelled with ⟨piece, stands, first⟩
      rcases induction (piece :: spelled) with ⟨pieces, joined, others⟩
      refine ⟨piece :: pieces, ?_, ?_⟩
      · rw [stands.join?_cons, joined, Option.map_some]
      · rw [List.flatMap_cons, List.reverse_cons, List.append_assoc]
        exact first.append others

theorem passes_literal (value : String) :
    Passes between (literal value) [.string (some value)] between := by
  rcases exists_passes_flatMap_escape value.toList [] with ⟨pieces, joined, passes⟩
  have begun : Passes between ['"'] [] (string []) := .step rfl
  have ended : Passes (string (pieces.reverse ++ [])) ['"'] [.string (some value)] between :=
    .step (by
      rw [Scan.step, if_pos rfl, List.append_nil, List.reverse_reverse, joined, Option.map_some,
        String.ofList_toList])
  exact begun.append (passes.append ended)

theorem passes_unreadable :
    Passes between (characters 0 unreadable) [.string none] between := by
  have begun : Passes between ['"'] [] (string []) := .step rfl
  have surrogate := passes_unit (by decide : 0xD800 < 0x10000) []
  have ended : Passes (string [.unit 0xD800]) ['"'] [.string none] between := .step rfl
  exact begun.append (surrogate.append ended)

/-! ## Values -/

theorem Spells.lastLine (spells : Spells text completed) :
    Passes between (text ++ ['\n']) completed between := by
  have line := spells.append (passes_blank (by decide : isSpace '\n' = true)) (by decide)
  rwa [List.append_nil] at line

theorem Spells.line (spells : Spells text completed) (lines : Passes between later more between) :
    Passes between (text ++ [',', '\n'] ++ later) (completed ++ .comma :: more) between := by
  have comma : Passes between [','] [.comma] between := .step rfl
  have feed : Passes between ['\n'] [] between := passes_blank (by decide)
  have line := spells.append ((comma.append feed).append lines) (by decide)
  rwa [List.append_assoc]

theorem passes_itemCharacters {items : List Json} (level : Nat)
    (each : ∀ item ∈ items, Spells (characters level item) (tokens item)) :
    Passes between (itemCharacters level items) (itemTokens items) between := by
  induction items with
  | nil => exact .nil between
  | cons head rest induction =>
      rw [List.forall_mem_cons] at each
      have spells := (passes_indentation level).append_spells each.1
      cases rest with
      | nil => exact spells.lastLine
      | cons next others => exact spells.line (induction each.2)

theorem passes_fieldCharacters {fields : List (String × Json)} (level : Nat)
    (each : ∀ field ∈ fields, Spells (characters level field.2) (tokens field.2)) :
    Passes between (fieldCharacters level fields) (fieldTokens fields) between := by
  induction fields with
  | nil => exact .nil between
  | cons head rest induction =>
      rcases head with ⟨name, value⟩
      rw [List.forall_mem_cons] at each
      have colon : Passes between [':'] [.colon] between := .step rfl
      have blank : Passes between [' '] [] between := passes_blank (by decide)
      have named := ((passes_indentation level).append (passes_literal name)).append
        (colon.append blank)
      have spells := named.append_spells each.1
      cases rest with
      | nil => exact spells.lastLine
      | cons next others => exact spells.line (induction each.2)

theorem passes_bracketed {opening closing : Char} {openToken closeToken : Token}
    (opened : Passes between [opening] [openToken] between)
    (lines : Passes between later more between) (level : Nat)
    (closed : Passes between [closing] [closeToken] between) :
    Passes between ([opening, '\n'] ++ later ++ indentation level ++ [closing])
      (openToken :: more ++ [closeToken]) between := by
  have feed : Passes between ['\n'] [] between := passes_blank (by decide)
  have body := ((opened.append feed).append lines).append (passes_indentation level)
  rw [List.append_nil] at body
  exact body.append closed

/-- What is written for a value spells its tokens. -/
theorem spells_characters {value : Json} (well : WellSpelled value) (level : Nat) :
    Spells (characters level value) (tokens value) := by
  induction well generalizing level with
  | null => exact spells_scalar rfl
  | boolean value => cases value <;> exact spells_scalar rfl
  | integer value => exact spells_scalar (scalar?_decimal value)
  | real number => exact spells_scalar number
  | text value => exact (passes_literal value).spells
  | unreadable => exact passes_unreadable.spells
  | @array items each induction =>
      have opened : Passes between ['['] [.openArray] between := .step rfl
      have closed : Passes between [']'] [.closeArray] between := .step rfl
      cases items with
      | nil => exact (opened.append closed).spells
      | cons first others =>
          have lines := passes_itemCharacters (level + 1)
            fun item member => induction item member (level + 1)
          exact (passes_bracketed opened lines level closed).spells
  | @object fields each induction =>
      have opened : Passes between ['\x7b'] [.openObject] between := .step rfl
      have closed : Passes between ['\x7d'] [.closeObject] between := .step rfl
      cases fields with
      | nil => exact (opened.append closed).spells
      | cons first others =>
          have lines := passes_fieldCharacters (level + 1)
            fun field member => induction field member (level + 1)
          exact (passes_bracketed opened lines level closed).spells

end Scan

theorem tokens?_pretty {value : Json} (well : WellSpelled value) :
    Scan.between.tokens? value.pretty.toList = some (tokens value) := by
  have spelled := Scan.spells_characters well 0 [] nofun
  rw [List.append_nil] at spelled
  rw [pretty, String.toList_ofList, spelled]
  simp [Scan.tokens?, Scan.finish]

end TwinIsa.Json
