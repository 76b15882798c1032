import Mathlib.Data.List.Basic
import TwinIsa.Text.Lines

/-!
Lines by their endings. A text is empty, or a line without an ending, or a line with its line feed
and more text behind it; what holds of all three holds of every text. Bytes and characters are cut
by the same function, and a byte that ends a line is never a part of another character, so the lines
of an encoded text are the encoded lines of the text.
-/

namespace TwinIsa.Text

/-! ## Cutting at line feeds -/

section

variable {α : Type} [DecidableEq α] {lineFeed carriageReturn : α}

def chomp (carriageReturn : α) (line : List α) : List α :=
  if line.getLast? = some carriageReturn then line.dropLast else line

theorem chomp_concat (front : List α) (last : α) :
    chomp carriageReturn (front ++ [last]) =
      if last = carriageReturn then front else front ++ [last] := by
  simp [chomp]

theorem chomp_of_not_mem {line : List α} (noReturn : carriageReturn ∉ line) :
    chomp carriageReturn line = line :=
  if_neg fun last => noReturn (List.mem_of_getLast? last)

theorem chomp_append_of_not_mem {back : List α} (nonempty : back ≠ [])
    (noReturn : carriageReturn ∉ back) (front : List α) :
    chomp carriageReturn (front ++ back) = front ++ back := by
  rcases back.eq_nil_or_concat' with empty | ⟨middle, last, rfl⟩
  · contradiction
  · have different : last ≠ carriageReturn := by
      rintro rfl
      exact noReturn (by simp)
    rw [← List.append_assoc, chomp_concat, if_neg different]

theorem chomp_cons {head : α} {tail : List α} (nonempty : tail ≠ []) :
    chomp carriageReturn (head :: tail) = head :: chomp carriageReturn tail := by
  rcases tail.eq_nil_or_concat' with empty | ⟨front, last, rfl⟩
  · contradiction
  · rw [← List.cons_append, chomp_concat, chomp_concat]
    split <;> rfl

theorem splitLines_of_no_feed {line : List α} (nonempty : line ≠ []) (noFeed : lineFeed ∉ line) :
    splitLines lineFeed carriageReturn line = [line] := by
  induction line with
  | nil => contradiction
  | cons head tail induction =>
      rw [List.mem_cons, not_or] at noFeed
      cases tail with
      | nil => rw [splitLines, if_neg (Ne.symm noFeed.1)]
      | cons next rest =>
          have noEnding : ¬(head = carriageReturn ∧ next = lineFeed) := by
            rintro ⟨_, rfl⟩
            exact noFeed.2 List.mem_cons_self
          rw [splitLines, if_neg (Ne.symm noFeed.1), if_neg noEnding,
            induction (List.cons_ne_nil next rest) noFeed.2]

theorem splitLines_append_feed {line : List α} (noFeed : lineFeed ∉ line) (rest : List α) :
    splitLines lineFeed carriageReturn (line ++ lineFeed :: rest) =
      chomp carriageReturn line :: splitLines lineFeed carriageReturn rest := by
  induction line with
  | nil => cases rest <;> simp [splitLines, chomp]
  | cons head tail induction =>
      rw [List.mem_cons, not_or] at noFeed
      have cut := induction noFeed.2
      cases tail with
      | nil =>
          rw [List.cons_append, List.nil_append, splitLines, if_neg (Ne.symm noFeed.1)]
          rw [List.nil_append] at cut
          by_cases isReturn : head = carriageReturn
          · rw [if_pos ⟨isReturn, rfl⟩, isReturn]
            simp [chomp]
          · rw [if_neg fun both => isReturn both.1, cut]
            simp [chomp, isReturn]
      | cons next more =>
          have noEnding : ¬(head = carriageReturn ∧ next = lineFeed) := by
            rintro ⟨_, rfl⟩
            exact noFeed.2 List.mem_cons_self
          rw [List.cons_append] at cut
          rw [List.cons_append, List.cons_append, splitLines, if_neg (Ne.symm noFeed.1),
            if_neg noEnding, cut, chomp_cons (List.cons_ne_nil next more)]

theorem splitLines_flatMap {lines : List (List α)} (noFeed : ∀ line ∈ lines, lineFeed ∉ line) :
    splitLines lineFeed carriageReturn (lines.flatMap (· ++ [lineFeed])) =
      lines.map (chomp carriageReturn) := by
  induction lines with
  | nil => rfl
  | cons line others induction =>
      rw [List.forall_mem_cons] at noFeed
      rw [List.flatMap_cons, List.append_assoc, List.singleton_append,
        splitLines_append_feed noFeed.1, induction noFeed.2, List.map_cons]

/-- Induction on the lines of a text, of which the last may be without an ending. -/
@[elab_as_elim]
theorem lines_induction (lineFeed : α) {motive : List α → Prop} (empty : motive [])
    (unended : ∀ line, line ≠ [] → lineFeed ∉ line → motive line)
    (ended : ∀ line rest, lineFeed ∉ line → motive rest → motive (line ++ lineFeed :: rest))
    (text : List α) : motive text := by
  induction length : text.length using Nat.strongRecOn generalizing text with
  | ind size induction =>
      by_cases feed : lineFeed ∈ text
      · rcases List.eq_append_cons_of_mem feed with ⟨line, rest, rfl, noFeed⟩
        apply ended line rest noFeed
        refine induction rest.length ?_ rest rfl
        rw [← length, List.length_append, List.length_cons]
        omega
      · by_cases nonempty : text = []
        · rw [nonempty]
          exact empty
        · exact unended text nonempty feed

theorem splitLines_append (front back : List α) :
    splitLines lineFeed carriageReturn (front ++ lineFeed :: back) =
      splitLines lineFeed carriageReturn (front ++ [lineFeed]) ++
        splitLines lineFeed carriageReturn back := by
  induction front using lines_induction lineFeed with
  | empty =>
      have noFeed : lineFeed ∉ ([] : List α) := List.not_mem_nil
      rw [splitLines_append_feed noFeed, splitLines_append_feed noFeed]
      rfl
  | unended line _ noFeed =>
      rw [splitLines_append_feed noFeed, splitLines_append_feed noFeed]
      rfl
  | ended line rest noFeed induction =>
      rw [List.append_assoc, List.append_assoc, List.cons_append, List.cons_append,
        splitLines_append_feed noFeed, splitLines_append_feed noFeed, induction,
        List.cons_append]

/-- A text whose first lines are given has them up to some place, which is its end or right behind a
line feed. -/
theorem exists_append_of_splitLines {text : List α} {front back : List (List α)}
    (cut : splitLines lineFeed carriageReturn text = front ++ back) :
    ∃ before behind, text = before ++ behind ∧
      splitLines lineFeed carriageReturn before = front ∧
      (behind = [] ∨ before = [] ∨ ∃ stem, before = stem ++ [lineFeed]) := by
  induction text using lines_induction lineFeed generalizing front with
  | empty =>
      have none := (List.append_eq_nil_iff.mp cut.symm).1
      exact ⟨[], [], rfl, none.symm, .inl rfl⟩
  | unended line nonempty noFeed =>
      cases front with
      | nil => exact ⟨[], line, rfl, rfl, .inr (.inl rfl)⟩
      | cons first others =>
          refine ⟨line, [], (List.append_nil line).symm, ?_, .inl rfl⟩
          rw [splitLines_of_no_feed nonempty noFeed, List.cons_append, List.cons.injEq] at cut
          rw [splitLines_of_no_feed nonempty noFeed, cut.1,
            (List.append_eq_nil_iff.mp cut.2.symm).1]
  | ended line rest noFeed induction =>
      cases front with
      | nil => exact ⟨[], _, rfl, rfl, .inr (.inl rfl)⟩
      | cons first others =>
          rw [splitLines_append_feed noFeed, List.cons_append, List.cons.injEq] at cut
          rcases induction cut.2 with ⟨before, behind, rfl, same, place⟩
          refine ⟨line ++ lineFeed :: before, behind, by simp, ?_, ?_⟩
          · rw [splitLines_append_feed noFeed, cut.1, same]
          · rcases place with atEnd | rfl | ⟨stem, rfl⟩
            · exact .inl atEnd
            · exact .inr (.inr ⟨line, rfl⟩)
            · exact .inr (.inr ⟨line ++ lineFeed :: stem, by simp⟩)

end

/-! ## Lines of texts -/

def ofLines (lines : List (List Char)) : String :=
  String.ofList (lines.flatMap (· ++ ['\n']))

theorem lines_ofLines {written : List (List Char)} (noFeed : ∀ line ∈ written, '\n' ∉ line) :
    lines (ofLines written) = written.map fun line => String.ofList (chomp '\r' line) := by
  rw [lines, ofLines, String.toList_ofList, splitLines_flatMap noFeed, List.map_map]
  rfl

theorem join_eq_ofLines (written : List String) :
    String.join (written.map (· ++ "\n")) = ofLines (written.map String.toList) := by
  apply String.toList_injective
  simp [ofLines, String.toList_join, List.flatMap_map]

theorem lines_join {written : List String}
    (clean : ∀ line ∈ written, '\n' ∉ line.toList ∧ '\r' ∉ line.toList) :
    lines (String.join (written.map (· ++ "\n"))) = written := by
  have noFeed : ∀ line ∈ written.map String.toList, '\n' ∉ line := by
    rw [List.forall_mem_map]
    exact fun line member => (clean line member).1
  have kept : ∀ line ∈ written, String.ofList (chomp '\r' line.toList) = line := by
    intro line member
    rw [chomp_of_not_mem (clean line member).2, String.ofList_toList]
  rw [join_eq_ofLines, lines_ofLines noFeed, List.map_map]
  exact (List.map_congr_left kept).trans (List.map_id' written)

/-! ## Encoded lines -/

/-- A byte below 128 is the encoding of a character, and part of no other. -/
theorem eq_of_mem_utf8EncodeChar {character : Char} {byte : UInt8} (ascii : byte.toNat < 128)
    (member : byte ∈ String.utf8EncodeChar character) : character.toNat = byte.toNat := by
  have number : character.val.toNat = character.toNat := rfl
  unfold String.utf8EncodeChar at member
  simp only [number] at member
  split at member
  next small =>
    rw [List.mem_singleton] at member
    rw [member, UInt8.toNat_ofNat']
    omega
  next =>
    exfalso
    split at member
    · simp only [List.mem_cons, List.not_mem_nil, or_false] at member
      rcases member with rfl | rfl <;> simp only [UInt8.toNat_ofNat'] at ascii <;> omega
    · split at member
      · simp only [List.mem_cons, List.not_mem_nil, or_false] at member
        rcases member with rfl | rfl | rfl <;> simp only [UInt8.toNat_ofNat'] at ascii <;> omega
      · simp only [List.mem_cons, List.not_mem_nil, or_false] at member
        rcases member with rfl | rfl | rfl | rfl <;> simp only [UInt8.toNat_ofNat'] at ascii <;>
          omega

def encode (text : List Char) : List UInt8 :=
  text.flatMap String.utf8EncodeChar

theorem encode_append (front back : List Char) :
    encode (front ++ back) = encode front ++ encode back :=
  List.flatMap_append

theorem encode_ne_nil {text : List Char} (nonempty : text ≠ []) : encode text ≠ [] := by
  rcases List.exists_cons_of_ne_nil nonempty with ⟨head, rest, rfl⟩
  simp [encode, String.utf8EncodeChar_ne_nil]

theorem mem_of_mem_encode {text : List Char} {byte : UInt8} (ascii : byte.toNat < 128)
    (member : byte ∈ encode text) : Char.ofNat byte.toNat ∈ text := by
  rcases List.mem_flatMap.mp member with ⟨character, inText, inEncoding⟩
  rw [← eq_of_mem_utf8EncodeChar ascii inEncoding, Char.ofNat_toNat]
  exact inText

theorem chomp_encode (line : List Char) :
    chomp 0x0D (encode line) = encode (chomp '\r' line) := by
  rcases line.eq_nil_or_concat' with rfl | ⟨front, last, rfl⟩
  · rfl
  · rw [chomp_concat, encode_append]
    split
    next isReturn =>
      rw [isReturn]
      exact chomp_concat _ _
    next notReturn =>
      have noReturn : (0x0D : UInt8) ∉ encode [last] := by
        intro member
        have isReturn := List.mem_singleton.mp (mem_of_mem_encode (by decide) member)
        exact notReturn isReturn.symm
      have nonempty : encode [last] ≠ [] := encode_ne_nil (List.cons_ne_nil last [])
      rw [chomp_append_of_not_mem nonempty noReturn, encode_append]

theorem splitLines_encode (text : List Char) :
    splitLines 0x0A 0x0D (encode text) = (splitLines '\n' '\r' text).map encode := by
  have noFeed_encode {line : List Char} (noFeed : '\n' ∉ line) : (0x0A : UInt8) ∉ encode line :=
    fun member => noFeed (mem_of_mem_encode (by decide) member)
  induction text using lines_induction '\n' with
  | empty => rfl
  | unended line nonempty noFeed =>
      rw [splitLines_of_no_feed nonempty noFeed,
        splitLines_of_no_feed (encode_ne_nil nonempty) (noFeed_encode noFeed)]
      rfl
  | ended line rest noFeed induction =>
      have bytes : encode (line ++ '\n' :: rest) = encode line ++ 0x0A :: encode rest :=
        encode_append line ('\n' :: rest)
      rw [bytes, splitLines_append_feed noFeed, splitLines_append_feed (noFeed_encode noFeed),
        induction, chomp_encode, List.map_cons]

theorem data_toUTF8 (text : String) : text.toUTF8.data.toList = encode text.toList := by
  rw [String.toUTF8_eq_toByteArray, ← String.utf8Encode_toList, List.utf8Encode,
    List.data_toByteArray]
  rfl

theorem fromUTF8?_encode (line : List Char) :
    String.fromUTF8? ⟨(encode line).toArray⟩ = some (String.ofList line) := by
  have bytes : (ByteArray.mk (encode line).toArray) = (String.ofList line).toByteArray := by
    rw [String.toByteArray_ofList]
    exact ByteArray.ext List.data_toByteArray.symm
  rw [bytes, String.fromUTF8?, dif_pos (String.ofList line).isValidUTF8]
  rfl

theorem byteLines_toUTF8 (text : String) : byteLines text.toUTF8 = (lines text).map some := by
  rw [byteLines, data_toUTF8, splitLines_encode, lines, List.map_map, List.map_map]
  exact List.map_congr_left fun line _ => fromUTF8?_encode line

end TwinIsa.Text
