import Mathlib.Algebra.GroupWithZero.Nat
import TwinIsa.ImageSession
import TwinIsa.Proofs.HexText

/-!
An image is a sequence of words that only grows, up to its capacity. After any operations it holds
as many of the words pushed to it as it has room for, in order: one operation keeps this, so a
session does, and from it the answer to every operation is known. How an image is written does not
depend on how it came about: writing it line by line is writing its text at once.
-/

namespace TwinIsa

/-! ## Bytes -/

theorem Text.utf8ByteSize_of_ascii {text : List Char}
    (ascii : ∀ character ∈ text, character.utf8Size = 1) :
    (String.ofList text).utf8ByteSize = text.length := by
  induction text with
  | nil => rfl
  | cons head rest induction =>
      rw [List.forall_mem_cons] at ascii
      rw [String.ofList_cons, String.utf8ByteSize_append, String.utf8ByteSize_singleton, ascii.1,
        induction ascii.2, List.length_cons, Nat.add_comm]

theorem Isa.utf8ByteSize_formatWord (isa : Isa) (word : Word) :
    (isa.formatWord word).utf8ByteSize =
      max isa.hexDigits (Numeral.digits 16 word.toNat).length := by
  have single : ∀ digit < 16, digit.digitChar.utf8Size = 1 := by decide
  have ascii : ∀ character ∈ Numeral.paddedDigits 16 isa.hexDigits word.toNat,
      character.utf8Size = 1 := by
    intro character member
    rcases Numeral.mem_paddedDigits (by decide) (by decide) member with ⟨digit, less, rfl⟩
    exact single digit less
  rw [Isa.formatWord, Text.utf8ByteSize_of_ascii ascii, Numeral.paddedDigits, List.length_leftpad]

namespace ProgramImage

/-! ## One operation -/

section

variable (image : ProgramImage) (word : Word)

theorem pushInPlace_run :
    (pushInPlace word).run.run image =
      match image.push word with
      | .ok (next, address) => (.ok address, next)
      | .error error => (.error error, image) := by
  have looked : (pushInPlace word).run.run image =
      (if image.capacity ≤ image.size then throw ⟨image.capacity⟩
      else do
        set { image with words := image.words.push word }
        return (← get).size - 1 :
          ExceptT CapacityExceeded (StateM ProgramImage) Nat).run.run image := rfl
  by_cases room : image.size < image.capacity
  · have address : (image.words.push word).size - 1 = image.size := by
      rw [Array.size_push, Nat.add_sub_cancel, size]
    rw [looked, push_of_room word room, if_neg (Nat.not_le.mpr room), ← address]
    rfl
  · rw [looked, push_of_full word room, if_pos (Nat.not_lt.mp room)]
    rfl

theorem step_push_of_room (room : image.size < image.capacity) :
    image.step (.push word) =
      (.pushed (.ok image.size), { image with words := image.words.push word }) := by
  have pushed := pushInPlace_run image word
  rw [push_of_room word room] at pushed
  exact congrArg (Prod.map Answer.pushed id) pushed

theorem step_push_of_full (full : ¬image.size < image.capacity) :
    image.step (.push word) = (.pushed (.error ⟨image.capacity⟩), image) := by
  have pushed := pushInPlace_run image word
  rw [push_of_full word full] at pushed
  exact congrArg (Prod.map Answer.pushed id) pushed

theorem step_push_of_error {error : CapacityExceeded}
    (failed : (image.step (.push word)).1 = .pushed (.error error)) :
    (image.step (.push word)).2 = image := by
  by_cases room : image.size < image.capacity
  · rw [step_push_of_room image word room] at failed
    cases failed
  · rw [step_push_of_full image word room]

theorem step_read (query : Query) : image.step (.read query) = (query.answer image, image) := rfl

end

/-! ## Sessions -/

theorem session_append (image : ProgramImage) (front back : List Operation) :
    image.session (front ++ back) =
      ((image.session front).1 ++ ((image.session front).2.session back).1,
        ((image.session front).2.session back).2) := by
  induction front generalizing image with
  | nil => rfl
  | cons operation rest induction =>
      simp only [List.cons_append, session, induction]

/-- What an operation of a session finds is what the operations before it leave. -/
theorem session_getElem? {operations : List Operation} {position : Nat} {operation : Operation}
    (image : ProgramImage) (found : operations[position]? = some operation) :
    (image.session operations).1[position]? =
        some ((image.session (operations.take position)).2.step operation).1 ∧
      (image.session (operations.take (position + 1))).2 =
        ((image.session (operations.take position)).2.step operation).2 := by
  constructor
  · induction operations generalizing image position with
    | nil => cases found
    | cons head rest induction =>
        cases position with
        | zero =>
            cases found
            rfl
        | succ position => exact induction (image.step head).2 found
  · rw [List.take_add_one, found, Option.toList_some, session_append]
    rfl

def Operation.word? : Operation → Option Word
  | push word => some word
  | read _ => none

def pushes (operations : List Operation) : List Word :=
  operations.filterMap Operation.word?

def holding (isa : Isa) (capacity : Nat) (given : List Word) : ProgramImage :=
  ⟨isa, capacity, (given.take capacity).toArray⟩

section

variable (isa : Isa) (capacity : Nat) (given : List Word)

theorem size_holding : (holding isa capacity given).size = min capacity given.length := by
  rw [size, holding, List.size_toArray, List.length_take]

theorem step_push_holding (word : Word) :
    (holding isa capacity given).step (.push word) =
      (.pushed (if given.length < capacity then .ok given.length else .error ⟨capacity⟩),
        holding isa capacity (given ++ [word])) := by
  have size := size_holding isa capacity given
  by_cases room : given.length < capacity
  · have all : given.take capacity = given := List.take_of_length_le (Nat.le_of_lt room)
    have more : (given ++ [word]).take capacity = given ++ [word] :=
      List.take_of_length_le (by rw [List.length_append]; exact room)
    have within : (holding isa capacity given).size < (holding isa capacity given).capacity := by
      rw [size]
      exact Nat.lt_of_le_of_lt (Nat.min_le_right _ _) room
    rw [step_push_of_room _ word within, size, Nat.min_eq_right (Nat.le_of_lt room), if_pos room,
      holding, holding, all, more, List.push_toArray]
  · have same : (given ++ [word]).take capacity = given.take capacity :=
      List.take_append_of_le_length (Nat.not_lt.mp room)
    have full : ¬(holding isa capacity given).size < (holding isa capacity given).capacity := by
      rw [size, Nat.min_eq_left (Nat.not_lt.mp room)]
      exact Nat.lt_irrefl capacity
    rw [step_push_of_full _ word full, if_neg room, holding, holding, same]

theorem step_holding (operation : Operation) :
    ((holding isa capacity given).step operation).2 =
      holding isa capacity (given ++ pushes [operation]) := by
  cases operation with
  | push word => rw [step_push_holding]; rfl
  | read query => rw [step_read, pushes, List.filterMap_cons_none rfl, List.filterMap_nil,
      List.append_nil]

theorem session_holding (operations : List Operation) :
    ((holding isa capacity given).session operations).2 =
      holding isa capacity (given ++ pushes operations) := by
  induction operations generalizing given with
  | nil => rw [pushes, List.filterMap_nil, List.append_nil]; rfl
  | cons operation rest induction =>
      have parts : pushes (operation :: rest) = pushes [operation] ++ pushes rest :=
        List.filterMap_append (l := [operation])
      rw [parts, ← List.append_assoc, ← induction, ← step_holding]
      rfl

end

theorem session_empty (isa : Isa) (capacity : Nat) (operations : List Operation) :
    ((empty isa capacity).session operations).2 = holding isa capacity (pushes operations) := by
  have start : empty isa capacity = holding isa capacity [] := by
    rw [holding, List.take_nil, empty]
  rw [start, session_holding, List.nil_append]

theorem pushes_getElem? {operations : List Operation} {position : Nat} {word : Word}
    (found : operations[position]? = some (.push word)) :
    (pushes operations)[(pushes (operations.take position)).length]? = some word := by
  have parts : pushes operations = pushes (operations.take position) ++
      word :: pushes (operations.drop (position + 1)) := by
    rcases List.getElem?_eq_some_iff.mp found with ⟨within, there⟩
    have split := List.take_append_drop position operations
    rw [List.drop_eq_getElem_cons within, there] at split
    calc
      pushes operations =
          pushes (operations.take position ++ .push word :: operations.drop (position + 1)) := by
        rw [split]
      _ = _ := List.filterMap_append
  rw [parts, List.getElem?_append_right (Nat.le_refl _), Nat.sub_self, List.getElem?_cons_zero]

/-! ## Text -/

theorem Buffer.write?_empty (buffer : Buffer) : buffer.write? "" = some buffer := by
  rcases buffer with ⟨_ | room, written⟩
  · simp [write?]
  · simp [write?]

theorem Buffer.write?_append (buffer : Buffer) (first second : String) :
    (buffer.write? first).bind (·.write? second) = buffer.write? (first ++ second) := by
  rcases buffer with ⟨_ | room, written⟩
  · simp [write?, String.append_assoc]
  · by_cases fits : first.utf8ByteSize ≤ room
    · have both : first.utf8ByteSize + second.utf8ByteSize ≤ room ↔
          second.utf8ByteSize ≤ room - first.utf8ByteSize := by omega
      simp [write?, fits, both, String.append_assoc, Nat.sub_sub]
    · have neither : ¬first.utf8ByteSize + second.utf8ByteSize ≤ room := by omega
      simp [write?, fits, neither]

theorem writeHex?_eq (image : ProgramImage) (buffer : Buffer) :
    image.writeHex? buffer = buffer.write? image.hexText := by
  have together (lines : List String) :
      lines.foldlM (fun buffer line => buffer.write? (line ++ "\n")) buffer =
        buffer.write? (String.join (lines.map (· ++ "\n"))) := by
    induction lines generalizing buffer with
    | nil => exact buffer.write?_empty.symm
    | cons line rest induction =>
        rw [List.foldlM_cons, List.map_cons, String.join_cons,
          ← buffer.write?_append (line ++ "\n")]
        exact congrArg (Option.bind _) (funext induction)
  exact together image.hexLines

theorem utf8ByteSize_hexText (image : ProgramImage) :
    image.hexText.utf8ByteSize = (image.words.toList.map fun word =>
      max image.isa.hexDigits (Numeral.digits 16 word.toNat).length + 1).sum := by
  rw [hexText, hexLines]
  induction image.words.toList with
  | nil => rfl
  | cons word rest induction =>
      rw [List.map_cons, List.map_cons, String.join_cons, String.utf8ByteSize_append,
        String.utf8ByteSize_append, induction, Isa.utf8ByteSize_formatWord,
        List.map_cons, List.sum_cons]
      rfl

/-! ## The whole -/

/-- An image only grows, and up to its capacity. After any operations it holds the words that were
pushed, as many as there is room for. A push is answered by the number of pushes before it, or where
that has reached the capacity by an error; the word keeps that address whatever follows, and neither
a push that fails nor a question changes the image. Writing the image fails only for want of room,
and the text written is the text that the image is asked for: its lines, each with a line end. -/
theorem session_grows_within_capacity (isa : Isa) (capacity : Nat) (operations : List Operation) :
    let image := ((empty isa capacity).session operations).2
    let answers := ((empty isa capacity).session operations).1
    let imageAt (position : Nat) := ((empty isa capacity).session (operations.take position)).2
    image = ⟨isa, capacity, ((pushes operations).take capacity).toArray⟩ ∧
    (∀ (position : Nat) (word : Word), operations[position]? = some (.push word) →
      let earlier := (pushes (operations.take position)).length
      answers[position]? =
        some (.pushed (if earlier < capacity then .ok earlier else .error ⟨capacity⟩))) ∧
    (∀ (position : Nat) (word : Word) (address : Nat), operations[position]? = some (.push word) →
      answers[position]? = some (.pushed (.ok address)) → image.words[address]? = some word) ∧
    (∀ (position : Nat) (word : Word) (error : CapacityExceeded),
      operations[position]? = some (.push word) →
      answers[position]? = some (.pushed (.error error)) →
        imageAt (position + 1) = imageAt position) ∧
    (∀ (position : Nat) (query : Query), operations[position]? = some (.read query) →
      answers[position]? = some (query.answer (imageAt position)) ∧
        imageAt (position + 1) = imageAt position) ∧
    image.hexText.toList = image.hexLines.flatMap (·.toList ++ ['\n']) ∧
    (∀ written, image.writeHex? ⟨none, written⟩ = some ⟨none, written ++ image.hexText⟩) ∧
    (∀ bytes, image.writeHex? ⟨some bytes, ""⟩ =
      if image.hexText.utf8ByteSize ≤ bytes then
        some ⟨some (bytes - image.hexText.utf8ByteSize), image.hexText⟩
      else none) ∧
    image.hexText.utf8ByteSize = (image.words.toList.map fun word =>
      max isa.hexDigits (Numeral.digits 16 word.toNat).length + 1).sum := by
  intro image answers imageAt
  have contents : image = holding isa capacity (pushes operations) :=
    session_empty isa capacity operations
  have pushed {position : Nat} {word : Word}
      (found : operations[position]? = some (.push word)) :
      answers[position]? = some (.pushed
        (if (pushes (operations.take position)).length < capacity then
          .ok (pushes (operations.take position)).length else .error ⟨capacity⟩)) := by
    have answered := (session_getElem? (empty isa capacity) found).1
    rwa [session_empty, step_push_holding] at answered
  refine ⟨contents, fun position word found => pushed found, ?_, ?_, ?_, ?_, ?_, ?_, ?_⟩
  · intro position word address found stored
    rw [pushed found, Option.some.injEq, Answer.pushed.injEq] at stored
    split at stored
    next room =>
      rw [contents, holding, List.getElem?_toArray, ← Except.ok.inj stored,
        List.getElem?_take_of_lt room]
      exact pushes_getElem? found
    next full => cases stored
  · intro position word error found failed
    have there := session_getElem? (empty isa capacity) found
    rw [there.1, Option.some.injEq] at failed
    exact there.2.trans (step_push_of_error _ word failed)
  · intro position query found
    have there := session_getElem? (empty isa capacity) found
    rw [step_read] at there
    exact there
  · simp only [hexText, String.toList_join, List.flatMap_map, String.toList_append]
    rfl
  · intro written
    exact image.writeHex?_eq ⟨none, written⟩
  · intro bytes
    rw [writeHex?_eq, Buffer.write?, String.empty_append]
  · rw [utf8ByteSize_hexText, contents]
    rfl

theorem session_grows_within_capacity_full :
    let operations : List Operation := [.push 0x123456, .push 7, .read .words]
    let answers := ((empty .ternary 1).session operations).1
    let image := ((empty .ternary 1).session operations).2
    operations[0]? = some (.push 0x123456) ∧ operations[1]? = some (.push 7) ∧
      operations[2]? = some (.read .words) ∧ answers[0]? = some (.pushed (.ok 0)) ∧
      answers[1]? = some (.pushed (.error ⟨1⟩)) ∧ answers[2]? = some (.words #[0x123456]) ∧
      ((empty .ternary 1).session (operations.take 2)).2 =
        ((empty .ternary 1).session (operations.take 1)).2 ∧
      image.words[0]? = some 0x123456 ∧ image.hexText.utf8ByteSize = 7 ∧
      image.writeHex? ⟨some 7, ""⟩ = some ⟨some 0, image.hexText⟩ ∧
      image.writeHex? ⟨some 6, ""⟩ = none := by
  intro operations answers image
  rcases session_grows_within_capacity .ternary 1 operations with
    ⟨contents, pushed, kept, unchanged, read, _, _, limited, size⟩
  have first : answers[0]? = some (.pushed (.ok 0)) := pushed 0 0x123456 rfl
  have second : answers[1]? = some (.pushed (.error ⟨1⟩)) := pushed 1 7 rfl
  have seven : image.hexText.utf8ByteSize = 7 := by
    rw [size, contents]
    decide
  refine ⟨rfl, rfl, rfl, first, second, ?_, unchanged 1 7 _ rfl second,
    kept 0 0x123456 0 rfl first, seven, ?_, ?_⟩
  · rw [(read 2 .words rfl).1]
    rfl
  · rw [limited, seven]
    rfl
  · rw [limited, seven]
    rfl

end ProgramImage

end TwinIsa
