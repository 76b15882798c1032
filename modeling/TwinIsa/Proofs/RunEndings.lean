import Mathlib.Data.List.Basic
import Mathlib.Data.List.Induction
import TwinIsa.Proofs.Runs

/-!
How runs end. A run gets past some lines, and what it has collected then can be said of these lines
alone; it ends at what comes behind them, which is nothing, a line that cannot be read, a terminator
or a word without room. Every run ends in one of these four ways, at the first line that allows it,
and what comes behind that line has no part in the run.
-/

namespace TwinIsa

/-! ## What lines amount to -/

namespace OpcodeTable

variable (table : OpcodeTable)

def words (lines : List String) : List Word :=
  lines.filterMap table.wordOfText?

def diagnostics (lines : List String) : List Diagnostic :=
  (lines.zipIdx 1).filterMap fun entry => table.diagnosticOfText? entry.2 entry.1

def eventOfText? (number address : Nat) (text : String) : Option Event :=
  match Line.ofText? text with
  | some (.instruction line) =>
      match line.encode table with
      | .ok word => some (.encoded address (table.isa.formatWord word) line.text)
      | .error error => some (.skipped ⟨number, line.text, error⟩)
  | _ => none

def lineEvents (lines : List String) : List Event :=
  lines.zipIdx.filterMap fun entry =>
    table.eventOfText? (entry.2 + 1) (table.words (lines.take entry.2)).length entry.1

/-! ## Single lines -/

section

variable {table} (number address : Nat) {text : String} {line : SourceLine}

theorem instruction_cases (table : OpcodeTable) (text : String) :
    (∀ line, Line.ofText? text ≠ some (.instruction line)) ∨
      ∃ line, Line.ofText? text = some (.instruction line) ∧
        ((∃ error, line.encode table = .error error) ∨ ∃ word, line.encode table = .ok word) := by
  by_cases read : ∃ line, Line.ofText? text = some (.instruction line)
  · rcases read with ⟨line, read⟩
    refine .inr ⟨line, read, ?_⟩
    cases encoded : line.encode table with
    | error error => exact .inl ⟨error, rfl⟩
    | ok word => exact .inr ⟨word, rfl⟩
  · exact .inl fun line found => read ⟨line, found⟩

theorem eventOfText?_of_no_instruction
    (noInstruction : ∀ line, Line.ofText? text ≠ some (.instruction line)) :
    table.eventOfText? number address text = none := by
  unfold eventOfText?
  split
  next line read => exact absurd read (noInstruction line)
  next => rfl

theorem eventOfText?_of_error {error : LineError}
    (read : Line.ofText? text = some (.instruction line))
    (encoded : line.encode table = .error error) :
    table.eventOfText? number address text = some (.skipped ⟨number, line.text, error⟩) := by
  rw [eventOfText?, read]
  simp [encoded]

theorem eventOfText?_of_ok {word : Word} (read : Line.ofText? text = some (.instruction line))
    (encoded : line.encode table = .ok word) :
    table.eventOfText? number address text =
      some (.encoded address (table.isa.formatWord word) line.text) := by
  rw [eventOfText?, read]
  simp [encoded]

end

/-! ## One line behind others -/

variable (lines : List String) (text : String)

theorem words_concat :
    table.words (lines ++ [text]) = table.words lines ++ (table.wordOfText? text).toList := by
  rw [words, List.filterMap_append, words]
  cases found : table.wordOfText? text <;> simp [found]

theorem diagnostics_concat :
    table.diagnostics (lines ++ [text]) =
      table.diagnostics lines ++ (table.diagnosticOfText? (lines.length + 1) text).toList := by
  rw [diagnostics, List.zipIdx_append, List.filterMap_append, diagnostics, Nat.add_comm 1]
  cases found : table.diagnosticOfText? (lines.length + 1) text <;> simp [found]

theorem lineEvents_concat :
    table.lineEvents (lines ++ [text]) =
      table.lineEvents lines ++
        (table.eventOfText? (lines.length + 1) (table.words lines).length text).toList := by
  rw [lineEvents, List.zipIdx_append, List.filterMap_append, lineEvents]
  congr 1
  · apply List.filterMap_congr
    intro entry member
    have within : entry.2 ≤ lines.length := by
      have less := (List.mem_zipIdx member).2.1
      omega
    rw [List.take_append_of_le_length within]
  · cases found : table.eventOfText? (lines.length + 1) (table.words lines).length text <;>
      simp [found]

end OpcodeTable

namespace Assembler

variable (assembler : Assembler)

/-! ## Getting past lines -/

structure Passes (lines : List String) : Prop where
  unstopped : ∀ text ∈ lines, ¬assembler.Stops text
  room : (assembler.table.words lines).length ≤ assembler.config.capacity

def collected (lines : List String) : Progress where
  image := ⟨assembler.table.isa, assembler.config.capacity, (assembler.table.words lines).toArray⟩
  diagnostics := (assembler.table.diagnostics lines).toArray
  events := (assembler.table.lineEvents lines).toArray

/-- The ways a run ends that has got past the given lines, by the reads to come: what ends it, and
the run as a whole. -/
inductive Ends (lines : List String) : List (Except InputError String) → Run → Prop
  | exhausted :
      Ends lines [] ((assembler.collected lines).finish assembler.table.isa false)
  | unreadable (error : InputError) (later : List (Except InputError String)) :
      Ends lines (.error error :: later) ((assembler.collected lines).fail (.input error))
  | terminator {text : String} (stops : assembler.Stops text)
      (later : List (Except InputError String)) :
      Ends lines (.ok text :: later)
        (((assembler.collected lines).log (.terminatorReached (lines.length + 1))).finish
          assembler.table.isa true)
  | full {text : String} {word : Word} (found : assembler.table.wordOfText? text = some word)
      (noRoom : (assembler.table.words lines).length = assembler.config.capacity)
      (later : List (Except InputError String)) :
      Ends lines (.ok text :: later)
        ((assembler.collected lines).fail (.full ⟨assembler.config.capacity⟩))

variable {assembler} {lines : List String} {text : String}

theorem passes_nil : assembler.Passes [] :=
  ⟨fun _ member => absurd member List.not_mem_nil, Nat.zero_le _⟩

theorem passes_concat_iff :
    assembler.Passes (lines ++ [text]) ↔
      (∀ earlier ∈ lines, ¬assembler.Stops earlier) ∧ ¬assembler.Stops text ∧
        (assembler.table.words (lines ++ [text])).length ≤ assembler.config.capacity := by
  constructor
  · intro passes
    rcases passes with ⟨unstopped, room⟩
    rw [List.forall_mem_append, List.forall_mem_singleton] at unstopped
    exact ⟨unstopped.1, unstopped.2, room⟩
  · rintro ⟨earlier, continues, room⟩
    refine ⟨?_, room⟩
    rw [List.forall_mem_append, List.forall_mem_singleton]
    exact ⟨earlier, continues⟩

theorem Passes.of_concat (passes : assembler.Passes (lines ++ [text])) :
    assembler.Passes lines := by
  rcases passes_concat_iff.mp passes with ⟨unstopped, _, room⟩
  refine ⟨unstopped, Nat.le_trans ?_ room⟩
  rw [OpcodeTable.words_concat, List.length_append]
  exact Nat.le_add_right _ _

/-! ## One line more -/

theorem collected_of_no_instruction
    (noInstruction : ∀ line, Line.ofText? text ≠ some (.instruction line)) :
    assembler.collected (lines ++ [text]) = assembler.collected lines := by
  rcases OpcodeTable.ofText?_of_no_instruction (lines.length + 1) assembler.table noInstruction with
    ⟨noWord, noDiagnostic⟩
  simp [collected, OpcodeTable.words_concat, OpcodeTable.diagnostics_concat,
    OpcodeTable.lineEvents_concat, noWord, noDiagnostic,
    OpcodeTable.eventOfText?_of_no_instruction _ _ noInstruction]

section

variable {line : SourceLine} (read : Line.ofText? text = some (.instruction line))
include read

theorem collected_of_error {error : LineError}
    (encoded : line.encode assembler.table = .error error) :
    assembler.collected (lines ++ [text]) =
      (assembler.collected lines).skip ⟨lines.length + 1, line.text, error⟩ := by
  rcases OpcodeTable.ofText?_of_error (lines.length + 1) read encoded with ⟨noWord, diagnostic⟩
  simp [collected, OpcodeTable.words_concat, OpcodeTable.diagnostics_concat,
    OpcodeTable.lineEvents_concat, noWord, diagnostic,
    OpcodeTable.eventOfText?_of_error _ _ read encoded, Progress.skip]

theorem collected_of_ok {word : Word} (encoded : line.encode assembler.table = .ok word) :
    assembler.collected (lines ++ [text]) =
      (assembler.collected lines).stored assembler.table.isa line.text word := by
  rcases OpcodeTable.ofText?_of_ok (lines.length + 1) read encoded with ⟨found, noDiagnostic⟩
  simp [collected, OpcodeTable.words_concat, OpcodeTable.diagnostics_concat,
    OpcodeTable.lineEvents_concat, found, noDiagnostic,
    OpcodeTable.eventOfText?_of_ok _ _ read encoded, Progress.stored, ProgramImage.size]

end

theorem runFrom_collected (passes : assembler.Passes (lines ++ [text]))
    (rest : List (Except InputError String)) :
    assembler.runFrom (assembler.collected lines) (lines.length + 1) (.ok text :: rest) =
      assembler.runFrom (assembler.collected (lines ++ [text])) (lines.length + 2) rest := by
  rcases passes_concat_iff.mp passes with ⟨_, continues, room⟩
  rw [runFrom]
  cases read : Line.ofText? text with
  | none => rw [collected_of_no_instruction (by simp [read])]
  | some content =>
      cases content with
      | terminator =>
          have goesOn : assembler.config.stopAtTerminator = false := by
            simpa [Stops, read] using continues
          rw [collected_of_no_instruction (by simp [read])]
          simp [goesOn]
      | instruction line =>
          dsimp only
          split
          next error encoded => rw [collected_of_error read encoded]
          next word encoded =>
            have found := (OpcodeTable.ofText?_of_ok 0 read encoded).1
            have within : (assembler.collected lines).image.size <
                (assembler.collected lines).image.capacity := by
              rw [OpcodeTable.words_concat, found, Option.toList_some, List.length_append] at room
              exact Nat.lt_of_succ_le room
            rw [assembler.isa_eq, Progress.store_of_room _ _ _ within,
              collected_of_ok read encoded]

/-! ## Runs -/

theorem runReads_of_passes (passes : assembler.Passes lines)
    (rest : List (Except InputError String)) :
    assembler.runReads (lines.map .ok ++ rest) =
      assembler.runFrom (assembler.collected lines) (lines.length + 1) rest := by
  -- The induction takes lines off the end, where the last of them is one step of the run.
  induction lines using List.reverseRecOn generalizing rest with
  | nil =>
      rw [runReads, begin, assembler.isa_eq]
      rfl
  | append_singleton lines text induction =>
      rw [List.map_append, List.append_assoc, List.map_singleton, List.singleton_append,
        induction passes.of_concat, runFrom_collected passes, List.length_append,
        List.length_singleton]

theorem Ends.runReads_eq {rest : List (Except InputError String)} {run : Run}
    (ends : assembler.Ends lines rest run) (passes : assembler.Passes lines) :
    assembler.runReads (lines.map .ok ++ rest) = run := by
  rw [runReads_of_passes passes]
  cases ends with
  | exhausted => rw [runFrom, assembler.isa_eq]
  | unreadable error later => rw [runFrom]
  | terminator stops later =>
      rw [runFrom, stops.2]
      simp [stops.1, assembler.isa_eq]
  | full found noRoom later =>
      rcases OpcodeTable.encode_of_wordOfText? found with ⟨line, read, encoded⟩
      have full : ¬(assembler.collected lines).image.size <
          (assembler.collected lines).image.capacity := by
        simp [collected, ProgramImage.size, noRoom]
      rw [runFrom, read]
      simp only [encoded]
      rw [Progress.store_of_full _ _ _ full]
      rfl

theorem exists_ends_from (passes : assembler.Passes lines)
    (reads : List (Except InputError String)) :
    ∃ more rest run, reads = more.map .ok ++ rest ∧ assembler.Passes (lines ++ more) ∧
      assembler.Ends (lines ++ more) rest run := by
  induction reads generalizing lines with
  | nil => exact ⟨[], [], _, rfl, by rwa [List.append_nil], .exhausted⟩
  | cons read later induction =>
      cases read with
      | error error =>
          exact ⟨[], _, _, rfl, by rwa [List.append_nil], .unreadable error later⟩
      | ok text =>
          by_cases stops : assembler.Stops text
          · exact ⟨[], _, _, rfl, by rwa [List.append_nil], .terminator stops later⟩
          · by_cases room : (assembler.table.words (lines ++ [text])).length ≤
                assembler.config.capacity
            · have further := passes_concat_iff.mpr ⟨passes.unstopped, stops, room⟩
              rcases induction further with ⟨more, rest, run, rfl, passesAll, ends⟩
              rw [List.append_assoc] at passesAll ends
              exact ⟨text :: more, rest, run, rfl, passesAll, ends⟩
            · have within := passes.room
              rw [OpcodeTable.words_concat, List.length_append] at room
              cases found : assembler.table.wordOfText? text with
              | none => simp [found] at room; omega
              | some word =>
                  have noRoom : (assembler.table.words lines).length =
                      assembler.config.capacity := by
                    simp only [found, Option.toList_some, List.length_singleton] at room
                    omega
                  rw [← List.append_nil lines] at passes noRoom
                  exact ⟨[], _, _, rfl, passes, .full found noRoom later⟩

/-- Every run gets past some lines and ends there. -/
theorem exists_ends (assembler : Assembler) (reads : List (Except InputError String)) :
    ∃ lines rest, reads = lines.map .ok ++ rest ∧ assembler.Passes lines ∧
      assembler.Ends lines rest (assembler.runReads reads) := by
  rcases exists_ends_from passes_nil reads with ⟨lines, rest, run, rfl, passes, ends⟩
  rw [List.nil_append] at passes ends
  rw [ends.runReads_eq passes]
  exact ⟨lines, rest, rfl, passes, ends⟩

end Assembler

end TwinIsa
