import TwinIsa.Assembler
import TwinIsa.Proofs.Steps

/-!
What a run comes to, without running. The lines that count are those before the first terminator
that ends the run; each of them has a word, a diagnostic or neither by itself, and only the room in
the image depends on the lines before. The induction is on the lines, over every progress that has
not used up more than its room.
-/

namespace TwinIsa

/-! ## Single lines -/

namespace OpcodeTable

def wordOfText? (table : OpcodeTable) (text : String) : Option Word :=
  match Line.ofText? text with
  | some (.instruction line) => (line.encode table).toOption
  | _ => none

def diagnosticOfText? (table : OpcodeTable) (number : Nat) (text : String) : Option Diagnostic :=
  match Line.ofText? text with
  | some (.instruction line) =>
      match line.encode table with
      | .error error => some ⟨number, line.text, error⟩
      | .ok _ => none
  | _ => none

variable {table : OpcodeTable} (number : Nat) {text : String} {line : SourceLine}

theorem ofText?_of_no_instruction (table : OpcodeTable)
    (noInstruction : ∀ line, Line.ofText? text ≠ some (.instruction line)) :
    table.wordOfText? text = none ∧ table.diagnosticOfText? number text = none := by
  unfold wordOfText? diagnosticOfText?
  split
  next line read => exact absurd read (noInstruction line)
  next => exact ⟨rfl, rfl⟩

theorem ofText?_of_error {error : LineError} (read : Line.ofText? text = some (.instruction line))
    (encoded : line.encode table = .error error) :
    table.wordOfText? text = none ∧
      table.diagnosticOfText? number text = some ⟨number, line.text, error⟩ := by
  rw [wordOfText?, diagnosticOfText?, read]
  simp [encoded, Except.toOption]

theorem ofText?_of_ok {word : Word} (read : Line.ofText? text = some (.instruction line))
    (encoded : line.encode table = .ok word) :
    table.wordOfText? text = some word ∧ table.diagnosticOfText? number text = none := by
  rw [wordOfText?, diagnosticOfText?, read]
  simp [encoded, Except.toOption]

theorem encode_of_wordOfText? {word : Word} (found : table.wordOfText? text = some word) :
    ∃ line : SourceLine, Line.ofText? text = some (.instruction line) ∧
      line.encode table = .ok word := by
  unfold wordOfText? at found
  split at found
  next line read => exact ⟨line, read, toOption_eq_some_iff.mp found⟩
  next => contradiction

end OpcodeTable

/-! ## Storing a word -/

namespace Progress

def stored (progress : Progress) (isa : Isa) (text : String) (word : Word) : Progress where
  image := { progress.image with words := progress.image.words.push word }
  diagnostics := progress.diagnostics
  events := progress.events.push (.encoded progress.image.size (isa.formatWord word) text)

variable {progress : Progress} (isa : Isa) (text : String) (word : Word)

theorem store_of_room (room : progress.image.size < progress.image.capacity) :
    progress.store isa text word = .ok (progress.stored isa text word) := by
  rw [store, ProgramImage.push_of_room word room]
  rfl

theorem store_of_full (full : ¬progress.image.size < progress.image.capacity) :
    progress.store isa text word = .error ⟨progress.image.capacity⟩ := by
  rw [store, ProgramImage.push_of_full word full]
  rfl

theorem size_stored : (progress.stored isa text word).image.size = progress.image.size + 1 :=
  Array.size_push word

end Progress

/-! ## Lines that count -/

namespace Assembler

variable (assembler : Assembler)

def Stops (text : String) : Prop :=
  assembler.config.stopAtTerminator = true ∧ Line.ofText? text = some .terminator

instance (text : String) : Decidable (assembler.Stops text) :=
  instDecidableAnd

/-- The lines before the first that ends a run. -/
def considered (lines : List String) : List String :=
  lines.takeWhile fun text => !decide (assembler.Stops text)

def words (lines : List String) : List Word :=
  (assembler.considered lines).filterMap assembler.table.wordOfText?

def diagnosticsFrom (first : Nat) (lines : List String) : List Diagnostic :=
  ((assembler.considered lines).zipIdx first).filterMap fun entry =>
    assembler.table.diagnosticOfText? entry.2 entry.1

def terminates (lines : List String) : Bool :=
  lines.any fun text => decide (assembler.Stops text)

def outcomeFrom (progress : Progress) (number : Nat) (lines : List String) :
    Except AssemblyError Assembly :=
  if progress.image.size + (assembler.words lines).length ≤ progress.image.capacity then
    .ok {
      image := { progress.image with
        words := progress.image.words ++ (assembler.words lines).toArray }
      diagnostics := progress.diagnostics ++ (assembler.diagnosticsFrom number lines).toArray
      terminated := assembler.terminates lines }
  else
    .error (.full ⟨progress.image.capacity⟩)

variable {assembler} {progress : Progress} {number : Nat} {text : String} {rest : List String}

theorem outcomeFrom_nil (within : progress.image.size ≤ progress.image.capacity) :
    assembler.outcomeFrom progress number [] =
      .ok ⟨progress.image, progress.diagnostics, false⟩ := by
  simp [outcomeFrom, words, considered, diagnosticsFrom, terminates, within]

theorem outcomeFrom_stop (stops : assembler.Stops text)
    (within : progress.image.size ≤ progress.image.capacity) :
    assembler.outcomeFrom progress number (text :: rest) =
      .ok ⟨progress.image, progress.diagnostics, true⟩ := by
  simp [outcomeFrom, words, considered, diagnosticsFrom, terminates, stops, within]

section

variable (continues : ¬assembler.Stops text)
include continues

theorem considered_cons :
    assembler.considered (text :: rest) = text :: assembler.considered rest := by
  simp [considered, continues]

theorem terminates_cons : assembler.terminates (text :: rest) = assembler.terminates rest := by
  simp [terminates, continues]

theorem words_cons_of_none (noWord : assembler.table.wordOfText? text = none) :
    assembler.words (text :: rest) = assembler.words rest := by
  rw [words, considered_cons continues, List.filterMap_cons_none noWord, words]

theorem words_cons_of_some {word : Word} (found : assembler.table.wordOfText? text = some word) :
    assembler.words (text :: rest) = word :: assembler.words rest := by
  rw [words, considered_cons continues, List.filterMap_cons_some found, words]

theorem diagnosticsFrom_cons_of_none
    (noDiagnostic : assembler.table.diagnosticOfText? number text = none) :
    assembler.diagnosticsFrom number (text :: rest) =
      assembler.diagnosticsFrom (number + 1) rest := by
  simp only [diagnosticsFrom, considered_cons continues, List.zipIdx_cons, List.filterMap_cons,
    noDiagnostic]

theorem diagnosticsFrom_cons_of_some {diagnostic : Diagnostic}
    (found : assembler.table.diagnosticOfText? number text = some diagnostic) :
    assembler.diagnosticsFrom number (text :: rest) =
      diagnostic :: assembler.diagnosticsFrom (number + 1) rest := by
  simp only [diagnosticsFrom, considered_cons continues, List.zipIdx_cons, List.filterMap_cons,
    found]

/-! ## One line more -/

theorem outcomeFrom_none (noInstruction : ∀ line, Line.ofText? text ≠ some (.instruction line)) :
    assembler.outcomeFrom progress number (text :: rest) =
      assembler.outcomeFrom progress (number + 1) rest := by
  rcases OpcodeTable.ofText?_of_no_instruction number assembler.table noInstruction with
    ⟨noWord, noDiagnostic⟩
  rw [outcomeFrom, outcomeFrom, words_cons_of_none continues noWord,
    diagnosticsFrom_cons_of_none continues noDiagnostic, terminates_cons continues]

theorem outcomeFrom_skip {line : SourceLine} {error : LineError}
    (read : Line.ofText? text = some (.instruction line))
    (encoded : line.encode assembler.table = .error error) :
    assembler.outcomeFrom progress number (text :: rest) =
      assembler.outcomeFrom (progress.skip ⟨number, line.text, error⟩) (number + 1) rest := by
  rcases OpcodeTable.ofText?_of_error number read encoded with ⟨noWord, diagnostic⟩
  rw [outcomeFrom, outcomeFrom, words_cons_of_none continues noWord,
    diagnosticsFrom_cons_of_some continues diagnostic, terminates_cons continues]
  simp [Progress.skip]

theorem outcomeFrom_store {line : SourceLine} {word : Word} (isa : Isa)
    (read : Line.ofText? text = some (.instruction line))
    (encoded : line.encode assembler.table = .ok word) :
    assembler.outcomeFrom progress number (text :: rest) =
      assembler.outcomeFrom (progress.stored isa line.text word) (number + 1) rest := by
  rcases OpcodeTable.ofText?_of_ok number read encoded with ⟨found, noDiagnostic⟩
  have length : progress.image.size + (assembler.words rest).length.succ =
      progress.image.size + 1 + (assembler.words rest).length := by omega
  have appended : progress.image.words ++ (word :: assembler.words rest).toArray =
      progress.image.words.push word ++ (assembler.words rest).toArray := by simp
  rw [outcomeFrom, outcomeFrom, words_cons_of_some continues found, List.length_cons, length,
    diagnosticsFrom_cons_of_none continues noDiagnostic, terminates_cons continues, appended,
    Progress.size_stored]
  rfl

theorem outcomeFrom_full {line : SourceLine} {word : Word}
    (read : Line.ofText? text = some (.instruction line))
    (encoded : line.encode assembler.table = .ok word)
    (full : ¬progress.image.size < progress.image.capacity) :
    assembler.outcomeFrom progress number (text :: rest) =
      .error (.full ⟨progress.image.capacity⟩) := by
  rcases OpcodeTable.ofText?_of_ok number read encoded with ⟨found, _⟩
  rw [outcomeFrom, words_cons_of_some continues found, List.length_cons, if_neg (by omega)]

end

/-! ## All lines -/

/-- A run collects what is left of it. -/
theorem runFrom_outcome (within : progress.image.size ≤ progress.image.capacity)
    (lines : List String) :
    (assembler.runFrom progress number (lines.map .ok)).outcome =
      assembler.outcomeFrom progress number lines := by
  induction lines generalizing progress number with
  | nil => exact (outcomeFrom_nil within).symm
  | cons text rest induction =>
      rw [List.map_cons, runFrom]
      cases read : Line.ofText? text with
      | none =>
          rw [outcomeFrom_none (by simp [Stops, read]) (by simp [read])]
          exact induction within
      | some content =>
          cases content with
          | terminator =>
              dsimp only
              split
              next stop =>
                rw [outcomeFrom_stop ⟨stop, read⟩ within]
                rfl
              next goesOn =>
                rw [outcomeFrom_none (fun stops => goesOn stops.1) (by simp [read])]
                exact induction within
          | instruction line =>
              have continues : ¬assembler.Stops text := by simp [Stops, read]
              dsimp only
              split
              next error encoded =>
                rw [outcomeFrom_skip continues read encoded]
                exact induction within
              next word encoded =>
                by_cases room : progress.image.size < progress.image.capacity
                · rw [outcomeFrom_store continues assembler.config.isa read encoded,
                    Progress.store_of_room _ _ _ room]
                  apply induction
                  rw [Progress.size_stored]
                  exact room
                · rw [outcomeFrom_full continues read encoded room,
                    Progress.store_of_full _ _ _ room]
                  rfl

theorem runLines_outcome (assembler : Assembler) (lines : List String) :
    (assembler.runLines lines).outcome =
      if (assembler.words lines).length ≤ assembler.config.capacity then
        .ok {
          image := ⟨assembler.table.isa, assembler.config.capacity,
            (assembler.words lines).toArray⟩
          diagnostics := (assembler.diagnosticsFrom 1 lines).toArray
          terminated := assembler.terminates lines }
      else
        .error (.full ⟨assembler.config.capacity⟩) := by
  rw [runLines, runReads, runFrom_outcome (Nat.zero_le _), outcomeFrom]
  simp [begin, ProgramImage.empty, ProgramImage.size, assembler.isa_eq]

/-- A run over lines does what can be said of them at once: the words of the lines that count are
the image, unless they are too many, and each line that counts but does not encode has its
diagnostic. The machine is that of the table, whatever the settings name. -/
theorem run_meets_specification (assembler : Assembler) (lines : List String) :
    (assembler.runLines lines).outcome =
      (if ((assembler.considered lines).filterMap assembler.table.wordOfText?).length ≤
          assembler.config.capacity then
        .ok {
          image := {
            isa := assembler.table.isa
            capacity := assembler.config.capacity
            words := ((assembler.considered lines).filterMap assembler.table.wordOfText?).toArray }
          diagnostics := (((assembler.considered lines).zipIdx 1).filterMap fun entry =>
            assembler.table.diagnosticOfText? entry.2 entry.1).toArray
          terminated := decide (∃ text ∈ lines, assembler.Stops text) }
      else
        .error (.full ⟨assembler.config.capacity⟩)) ∧
    ∀ (settings : Config) (isa : Isa),
      withTable { settings with isa } assembler.table = withTable settings assembler.table := by
  constructor
  · have terminated : assembler.terminates lines =
        decide (∃ text ∈ lines, assembler.Stops text) := by
      rw [terminates, List.any_eq]
      simp only [decide_eq_true_eq]
    rw [runLines_outcome, terminated]
    rfl
  · intro settings isa
    rfl

end Assembler

end TwinIsa
