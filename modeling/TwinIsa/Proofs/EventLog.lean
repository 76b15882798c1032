import TwinIsa.Proofs.RunEndings

/-!
The log of a run against its result. The log of the lines that a run gets past is, line by line,
what becomes of them, so the words that it names are those of the image under their addresses, and
its warnings are the diagnostics. Behind these entries stands only what a run says that comes to its
end; a run that is given up says nothing more.
-/

namespace TwinIsa

namespace Event

def stored? : Event → Option (Nat × String)
  | encoded address hex _ => some (address, hex)
  | _ => none

def warning? (event : Event) : Option String :=
  if event.level = .warning then some event.message else none

end Event

namespace OpcodeTable

variable (table : OpcodeTable) (number address : Nat) (text : String) (lines : List String)

/-! ## The log of lines -/

theorem stored?_eventOfText? :
    (table.eventOfText? number address text).bind Event.stored? =
      (table.wordOfText? text).map fun word => (address, table.isa.formatWord word) := by
  rcases table.instruction_cases text with noInstruction |
    ⟨line, read, ⟨error, encoded⟩ | ⟨word, encoded⟩⟩
  · rw [eventOfText?_of_no_instruction _ _ noInstruction,
      (ofText?_of_no_instruction 0 table noInstruction).1]
    rfl
  · rw [eventOfText?_of_error _ _ read encoded, (ofText?_of_error 0 read encoded).1]
    rfl
  · rw [eventOfText?_of_ok _ _ read encoded, (ofText?_of_ok 0 read encoded).1]
    rfl

theorem warning?_eventOfText? :
    (table.eventOfText? number address text).bind Event.warning? =
      (table.diagnosticOfText? number text).map Diagnostic.message := by
  rcases table.instruction_cases text with noInstruction |
    ⟨line, read, ⟨error, encoded⟩ | ⟨word, encoded⟩⟩
  · rw [eventOfText?_of_no_instruction _ _ noInstruction,
      (ofText?_of_no_instruction number table noInstruction).2]
    rfl
  · rw [eventOfText?_of_error _ _ read encoded, (ofText?_of_error number read encoded).2]
    rfl
  · rw [eventOfText?_of_ok _ _ read encoded, (ofText?_of_ok number read encoded).2]
    rfl

theorem filterMap_lineEvents_concat {α : Type} (part? : Event → Option α) :
    (table.lineEvents (lines ++ [text])).filterMap part? =
      (table.lineEvents lines).filterMap part? ++
        ((table.eventOfText? (lines.length + 1) (table.words lines).length text).bind
          part?).toList := by
  rw [lineEvents_concat, List.filterMap_append]
  cases table.eventOfText? (lines.length + 1) (table.words lines).length text with
  | none => rfl
  | some event => cases part : part? event <;> simp [part]

theorem filterMap_stored?_lineEvents :
    (table.lineEvents lines).filterMap Event.stored? =
      (table.words lines).zipIdx.map fun entry => (entry.2, table.isa.formatWord entry.1) := by
  induction lines using List.reverseRecOn with
  | nil => rfl
  | append_singleton lines text induction =>
      rw [filterMap_lineEvents_concat, induction, stored?_eventOfText?, words_concat,
        List.zipIdx_append, List.map_append]
      cases table.wordOfText? text <;> simp

theorem filterMap_warning?_lineEvents :
    (table.lineEvents lines).filterMap Event.warning? =
      (table.diagnostics lines).map Diagnostic.message := by
  induction lines using List.reverseRecOn with
  | nil => rfl
  | append_singleton lines text induction =>
      rw [filterMap_lineEvents_concat, induction, warning?_eventOfText?, diagnostics_concat,
        List.map_append]
      cases table.diagnosticOfText? (lines.length + 1) text <;> rfl

/-- No line is reported like the end of a run. -/
theorem filter_information_lineEvents :
    (table.lineEvents lines).filter (fun event => event.level = .information) = [] := by
  rw [List.filter_eq_nil_iff]
  intro event member
  rcases List.mem_filterMap.mp member with ⟨entry, _, found⟩
  rcases table.instruction_cases entry.1 with noInstruction |
    ⟨line, read, ⟨error, encoded⟩ | ⟨word, encoded⟩⟩
  · rw [eventOfText?_of_no_instruction _ _ noInstruction] at found
    contradiction
  · rw [eventOfText?_of_error _ _ read encoded, Option.some.injEq] at found
    rw [← found]
    nofun
  · rw [eventOfText?_of_ok _ _ read encoded, Option.some.injEq] at found
    rw [← found]
    nofun

end OpcodeTable

/-! ## The log of a run -/

namespace Assembler

variable (assembler : Assembler)

/-- What a run logs behind the lines that it gets past, and what it finds there, by its outcome. If
it comes to its end, the lines are the report; if it is given up for lack of room, they have taken
all of the room. -/
def Closes (lines : List String) (rest : List (Except InputError String)) (closing : List Event) :
    Except AssemblyError Assembly → Prop
  | .ok assembly =>
      assembly.image.words.toList = assembler.table.words lines ∧
        assembly.diagnostics.toList = assembler.table.diagnostics lines ∧
        (assembly.terminated = false ∧ rest = [] ∧
            closing = [.finished assembly.image.size assembly.diagnostics.size
              assembler.table.isa] ∨
          assembly.terminated = true ∧
            (∃ text later, rest = .ok text :: later ∧ assembler.Stops text) ∧
            closing = [.terminatorReached (lines.length + 1),
              .finished assembly.image.size assembly.diagnostics.size assembler.table.isa])
  | .error (.full error) =>
      closing = [] ∧ (assembler.table.words lines).length = error.capacity ∧
        ∃ text word later, rest = .ok text :: later ∧
          assembler.table.wordOfText? text = some word
  | .error (.input error) => closing = [] ∧ ∃ later, rest = .error error :: later

variable {assembler}

theorem Ends.exists_closes {lines : List String} {rest : List (Except InputError String)}
    {run : Run} (ends : assembler.Ends lines rest run) :
    ∃ closing, run.events.toList = assembler.table.lineEvents lines ++ closing ∧
      (∀ event ∈ closing, event.level = .information ∧ event.stored? = none) ∧
      assembler.Closes lines rest closing run.outcome := by
  have collectedEvents : (assembler.collected lines).events.toList =
      assembler.table.lineEvents lines := List.toList_toArray
  cases ends with
  | exhausted =>
      refine ⟨[.finished _ _ _], ?_, by simp [Event.level, Event.stored?], rfl, rfl,
        .inl ⟨rfl, rfl, rfl⟩⟩
      rw [Progress.finish, Array.toList_push, collectedEvents]
  | unreadable error later =>
      refine ⟨[], ?_, nofun, rfl, later, rfl⟩
      rw [Progress.fail, collectedEvents, List.append_nil]
  | @terminator text stops later =>
      refine ⟨[.terminatorReached _, .finished _ _ _], ?_, by simp [Event.level, Event.stored?],
        rfl, rfl, .inr ⟨rfl, ⟨text, later, rfl, stops⟩, rfl⟩⟩
      rw [Progress.finish, Array.toList_push, Progress.log, Array.toList_push, collectedEvents,
        List.append_assoc]
      rfl
  | @full text word found noRoom later =>
      refine ⟨[], ?_, nofun, rfl, noRoom, text, word, later, rfl, found⟩
      rw [Progress.fail, collectedEvents, List.append_nil]

/-- The log of any run has an entry for each instruction among the lines that the run gets past, in
their order: a word with its address, where addresses count up from zero, or a warning. If the run
comes to its end, these words are the image and these warnings the diagnostics; the terminator, if
one ends the run, is named behind them, and the totals come last. If the run is given up, nothing
follows, and for lack of room just as many words are reported as there is room for. -/
theorem log_tells_report (assembler : Assembler) (reads : List (Except InputError String)) :
    ∃ (lines : List String) (rest : List (Except InputError String)) (closing : List Event),
      reads = lines.map .ok ++ rest ∧
      (assembler.runReads reads).events.toList =
        (lines.zipIdx.filterMap fun entry => assembler.table.eventOfText? (entry.2 + 1)
          (assembler.table.words (lines.take entry.2)).length entry.1) ++ closing ∧
      (assembler.runReads reads).events.toList.filterMap Event.stored? =
        (assembler.table.words lines).zipIdx.map (fun entry =>
          (entry.2, assembler.table.isa.formatWord entry.1)) ∧
      (assembler.runReads reads).events.toList.filterMap Event.warning? =
        (assembler.table.diagnostics lines).map Diagnostic.message ∧
      (assembler.runReads reads).events.toList.filter (fun event => event.level = .information) =
        closing ∧
      assembler.Closes lines rest closing (assembler.runReads reads).outcome ∧
      ∀ error, (assembler.runReads reads).outcome = .error (.full error) →
        ((assembler.runReads reads).events.toList.filterMap Event.stored?).length =
          error.capacity := by
  rcases assembler.exists_ends reads with ⟨lines, rest, same, passes, ends⟩
  rcases ends.exists_closes with ⟨closing, events, information, closes⟩
  have noWord : closing.filterMap Event.stored? = [] := by
    rw [List.filterMap_eq_nil_iff]
    exact fun event member => (information event member).2
  have noWarning : closing.filterMap Event.warning? = [] := by
    rw [List.filterMap_eq_nil_iff]
    intro event member
    simp [Event.warning?, (information event member).1]
  have stored : (assembler.runReads reads).events.toList.filterMap Event.stored? =
      (assembler.table.words lines).zipIdx.map (fun entry =>
        (entry.2, assembler.table.isa.formatWord entry.1)) := by
    rw [events, List.filterMap_append, noWord, List.append_nil,
      OpcodeTable.filterMap_stored?_lineEvents]
  refine ⟨lines, rest, closing, same, events, stored, ?_, ?_, closes, ?_⟩
  · rw [events, List.filterMap_append, noWarning, List.append_nil,
      OpcodeTable.filterMap_warning?_lineEvents]
  · rw [events, List.filter_append, OpcodeTable.filter_information_lineEvents, List.nil_append,
      List.filter_eq_self]
    intro event member
    simp [(information event member).1]
  · intro error full
    rw [full] at closes
    rw [stored, List.length_map, List.length_zipIdx]
    exact closes.2.1

end Assembler

end TwinIsa
