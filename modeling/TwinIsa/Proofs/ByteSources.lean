import TwinIsa.Proofs.RunEndings
import TwinIsa.Proofs.Text.LineEndings

/-!
Assembling bytes. The bytes of a text are assembled as the text is. Other bytes are read a line at a
time, so bytes that are not text count only if the run gets to their line; where it ends before, it
is the run over the lines that were read, whatever comes behind them.
-/

namespace TwinIsa.Assembler

variable {assembler : Assembler}

/-! ## Lines that are read -/

def EndsAtLast (assembler : Assembler) (lines : List String) : Prop :=
  ∃ earlier text, lines = earlier ++ [text] ∧ assembler.Passes earlier ∧
    (assembler.Stops text ∨ ∃ word, assembler.table.wordOfText? text = some word ∧
      (assembler.table.words earlier).length = assembler.config.capacity)

inductive EndsEarly : Except AssemblyError Assembly → Prop
  | terminated {assembly : Assembly} (terminated : assembly.terminated = true) :
      EndsEarly (.ok assembly)
  | full (error : CapacityExceeded) : EndsEarly (.error (.full error))

/-- A run that ends at a line is the same whatever there is to read behind this line. -/
theorem exists_run_of_endsAtLast {lines : List String} (ends : assembler.EndsAtLast lines) :
    ∃ run, EndsEarly run.outcome ∧ ∀ later, assembler.runReads (lines.map .ok ++ later) = run := by
  rcases ends with ⟨earlier, text, rfl, passes, ending⟩
  simp only [List.map_append, List.append_assoc, List.map_singleton, List.singleton_append]
  rcases ending with stops | ⟨word, found, noRoom⟩
  · exact ⟨_, .terminated rfl, fun later => (Ends.terminator stops later).runReads_eq passes⟩
  · exact ⟨_, .full _, fun later => (Ends.full found noRoom later).runReads_eq passes⟩

theorem runReads_of_endsAtLast {lines : List String} (ends : assembler.EndsAtLast lines)
    (later : List (Except InputError String)) :
    assembler.runReads (lines.map .ok ++ later) = assembler.runLines lines := by
  rcases exists_run_of_endsAtLast ends with ⟨run, _, same⟩
  have alone := same []
  rw [List.append_nil] at alone
  rw [runLines, same later, alone]

theorem endsEarly_of_endsAtLast {lines : List String} (ends : assembler.EndsAtLast lines) :
    EndsEarly (assembler.runLines lines).outcome := by
  rcases exists_run_of_endsAtLast ends with ⟨run, early, same⟩
  rwa [← runReads_of_endsAtLast ends [], same]

/-- A run gets past all lines there are, or past the lines before one that cannot be read, or it
ends at a line before that. -/
theorem runReads_cases (assembler : Assembler) (reads : List (Except InputError String)) :
    (∃ lines assembly, reads = lines.map .ok ∧ assembler.Passes lines ∧
      (assembler.runReads reads).outcome = .ok assembly ∧ assembly.terminated = false) ∨
    (∃ lines error later, reads = lines.map .ok ++ .error error :: later ∧
      assembler.Passes lines ∧ (assembler.runReads reads).outcome = .error (.input error)) ∨
    ∃ lines later, reads = lines.map .ok ++ later ∧ assembler.EndsAtLast lines := by
  rcases assembler.exists_ends reads with ⟨lines, rest, rfl, passes, ends⟩
  generalize assembler.runReads (lines.map .ok ++ rest) = run at ends
  cases ends with
  | exhausted => exact .inl ⟨lines, _, List.append_nil _, passes, rfl, rfl⟩
  | unreadable error later => exact .inr (.inl ⟨lines, error, later, rfl, passes, rfl⟩)
  | @terminator text stops later =>
      refine .inr (.inr ⟨lines ++ [text], later, ?_, lines, text, rfl, passes, .inl stops⟩)
      rw [List.map_append, List.append_assoc]
      rfl
  | @full text word found noRoom later =>
      refine .inr (.inr ⟨lines ++ [text], later, ?_, lines, text, rfl, passes, .inr ?_⟩)
      · rw [List.map_append, List.append_assoc]
        rfl
      · exact ⟨word, found, noRoom⟩

/-! ## Lines of bytes -/

def readOfLine : Option String → Except InputError String
  | some line => .ok line
  | none => .error .notText

theorem toOption_readOfLine (line : Option String) : (readOfLine line).toOption = line := by
  cases line <;> rfl

theorem runBytes_eq_runReads (bytes : ByteArray) :
    assembler.runBytes bytes = assembler.runReads ((Text.byteLines bytes).map readOfLine) :=
  rfl

theorem byteLines_of_reads {bytes : ByteArray} {reads : List (Except InputError String)}
    (same : (Text.byteLines bytes).map readOfLine = reads) :
    Text.byteLines bytes = reads.map Except.toOption := by
  rw [← same, List.map_map]
  exact (List.map_id'' toOption_readOfLine _).symm

theorem reads_of_byteLines {bytes : ByteArray} {lines : List String} {later : List (Option String)}
    (cut : Text.byteLines bytes = lines.map some ++ later) :
    (Text.byteLines bytes).map readOfLine = lines.map .ok ++ later.map readOfLine := by
  rw [cut, List.map_append, List.map_map]
  rfl

theorem runBytes_of_endsAtLast {bytes : ByteArray} {lines : List String}
    {later : List (Option String)} (cut : Text.byteLines bytes = lines.map some ++ later)
    (ends : assembler.EndsAtLast lines) :
    assembler.runBytes bytes = assembler.runLines lines := by
  rw [runBytes_eq_runReads, reads_of_byteLines cut, runReads_of_endsAtLast ends]

theorem runBytes_of_unreadable {bytes : ByteArray} {lines : List String}
    {later : List (Option String)} (cut : Text.byteLines bytes = lines.map some ++ none :: later)
    (passes : assembler.Passes lines) :
    (assembler.runBytes bytes).outcome = .error (.input .notText) := by
  rw [runBytes_eq_runReads, reads_of_byteLines cut]
  rw [List.map_cons, readOfLine, (Ends.unreadable _ _).runReads_eq passes]
  rfl

theorem runBytes_toUTF8 (assembler : Assembler) (source : String) :
    assembler.runBytes source.toUTF8 = assembler.runText source := by
  rw [runBytes_eq_runReads, Text.byteLines_toUTF8, List.map_map]
  rfl

theorem runBytes_cases (assembler : Assembler) (bytes : ByteArray) :
    (∃ lines assembly, Text.byteLines bytes = lines.map some ∧ assembler.Passes lines ∧
      (assembler.runBytes bytes).outcome = .ok assembly ∧ assembly.terminated = false) ∨
    (∃ lines later, Text.byteLines bytes = lines.map some ++ none :: later ∧
      assembler.Passes lines) ∨
    ∃ lines later, Text.byteLines bytes = lines.map some ++ later ∧ assembler.EndsAtLast lines := by
  have options (lines : List String) :
      (lines.map Except.ok).map (Except.toOption (ε := InputError)) = lines.map some := by
    rw [List.map_map]
    rfl
  rcases assembler.runReads_cases ((Text.byteLines bytes).map readOfLine) with
    ⟨lines, assembly, same, passes, outcome, unterminated⟩ |
    ⟨lines, error, later, same, passes, _⟩ | ⟨lines, later, same, ends⟩
  · exact .inl ⟨lines, assembly, by rw [byteLines_of_reads same, options], passes, outcome,
      unterminated⟩
  · refine .inr (.inl ⟨lines, later.map Except.toOption, ?_, passes⟩)
    rw [byteLines_of_reads same, List.map_append, options]
    rfl
  · refine .inr (.inr ⟨lines, later.map Except.toOption, ?_, ends⟩)
    rw [byteLines_of_reads same, List.map_append, options]

theorem byteLines_append (front back : ByteArray) :
    Text.byteLines (front.push 0x0A ++ back) =
      Text.byteLines (front.push 0x0A) ++ Text.byteLines back := by
  simp only [Text.byteLines, ByteArray.data_append, ByteArray.data_push, Array.toList_append,
    Array.toList_push, List.append_assoc, List.singleton_append]
  rw [Text.splitLines_append, List.map_append]

/-- Bytes whose first lines are given have them up to some place, which is the end or right behind a
line feed. -/
theorem exists_append_of_byteLines {bytes : ByteArray} {lines later : List (Option String)}
    (nonempty : lines ≠ []) (cut : Text.byteLines bytes = lines ++ later) :
    ∃ front back : ByteArray, bytes = front ++ back ∧
      (back = .empty ∨ ∃ stem : ByteArray, front = stem.push 0x0A) ∧
      Text.byteLines front = lines := by
  rcases List.map_eq_append_iff.mp cut with ⟨pieces, others, split, rfl, rfl⟩
  rcases Text.exists_append_of_splitLines split with ⟨before, behind, same, cutBefore, place⟩
  have bytesSame : bytes = ByteArray.mk before.toArray ++ ByteArray.mk behind.toArray := by
    apply ByteArray.ext
    rw [ByteArray.data_append, List.append_toArray, ← same]
  refine ⟨⟨before.toArray⟩, ⟨behind.toArray⟩, bytesSame, ?_, ?_⟩
  · rcases place with rfl | rfl | ⟨stem, rfl⟩
    · exact .inl rfl
    · exact absurd (congrArg (List.map _) cutBefore.symm) nonempty
    · refine .inr ⟨⟨stem.toArray⟩, ?_⟩
      apply ByteArray.ext
      rw [ByteArray.data_push, List.push_toArray]
  · rw [Text.byteLines, cutBefore]

/-! ## Runs over bytes -/

theorem runBytes_eq_input_error_iff {bytes : ByteArray} :
    (∃ error, (assembler.runBytes bytes).outcome = .error (.input error)) ↔
      ∃ lines later, Text.byteLines bytes = lines.map some ++ none :: later ∧
        assembler.Passes lines := by
  constructor
  · rintro ⟨error, failed⟩
    rcases assembler.runBytes_cases bytes with ⟨_, _, _, _, outcome, _⟩ | unreadable |
      ⟨lines, later, cut, ends⟩
    · rw [failed] at outcome
      contradiction
    · exact unreadable
    · have early := endsEarly_of_endsAtLast ends
      rw [← runBytes_of_endsAtLast cut ends, failed] at early
      contradiction
  · rintro ⟨lines, later, cut, passes⟩
    exact ⟨_, runBytes_of_unreadable cut passes⟩

theorem endsEarly_runBytes_iff {bytes : ByteArray} :
    EndsEarly (assembler.runBytes bytes).outcome ↔
      ∃ (front back : ByteArray) (lines : List String), bytes = front ++ back ∧
        (back = .empty ∨ ∃ stem : ByteArray, front = stem.push 0x0A) ∧
        Text.byteLines front = lines.map some ∧ assembler.EndsAtLast lines := by
  constructor
  · intro early
    rcases assembler.runBytes_cases bytes with ⟨_, _, _, _, outcome, unterminated⟩ |
      ⟨lines, later, cut, passes⟩ | ⟨lines, later, cut, ends⟩
    · rw [outcome] at early
      cases early with
      | terminated terminated => exact absurd (unterminated.symm.trans terminated) nofun
    · rw [runBytes_of_unreadable cut passes] at early
      contradiction
    · have nonempty : lines.map some ≠ [] := by
        rcases ends with ⟨earlier, text, rfl, _⟩
        simp
      rcases exists_append_of_byteLines nonempty cut with ⟨front, back, same, place, cutFront⟩
      exact ⟨front, back, lines, same, place, cutFront, ends⟩
  · rintro ⟨front, back, lines, rfl, place, cutFront, ends⟩
    have cut : ∃ later, Text.byteLines (front ++ back) = lines.map some ++ later := by
      rcases place with rfl | ⟨stem, rfl⟩
      · exact ⟨[], by rw [ByteArray.append_empty, cutFront, List.append_nil]⟩
      · exact ⟨Text.byteLines back, by rw [byteLines_append, cutFront]⟩
    rcases cut with ⟨later, cut⟩
    rw [runBytes_of_endsAtLast cut ends]
    exact endsEarly_of_endsAtLast ends

theorem exists_lines_of_readable {bytes : ByteArray}
    (readable : ∀ error, (assembler.runBytes bytes).outcome ≠ .error (.input error)) :
    ∃ lines later, Text.byteLines bytes = lines.map some ++ later ∧
      (later = [] ∧ assembler.Passes lines ∨ assembler.EndsAtLast lines) ∧
      assembler.runBytes bytes = assembler.runLines lines := by
  rcases assembler.runBytes_cases bytes with ⟨lines, _, cut, passes, _⟩ |
    ⟨lines, later, cut, passes⟩ | ⟨lines, later, cut, ends⟩
  · refine ⟨lines, [], by rw [cut, List.append_nil], .inl ⟨rfl, passes⟩, ?_⟩
    rw [runBytes_eq_runReads, cut, List.map_map]
    rfl
  · exact absurd (runBytes_of_unreadable cut passes) (readable _)
  · exact ⟨lines, later, cut, .inr ends, runBytes_of_endsAtLast cut ends⟩

/-- The bytes of a text are assembled as the text is. Of any bytes, a line that is not text gives
the run up if and only if no terminator and no lack of room ends it before; otherwise the run is the
one over the lines that it has read, which are all of them or those up to the one that ends it. A
run ends early at a line that has its line feed or is the last one, and what comes behind this line
feed may be anything. -/
theorem runBytes_reads_on_demand (assembler : Assembler) :
    (∀ source : String, assembler.runBytes source.toUTF8 = assembler.runText source) ∧
    ∀ bytes : ByteArray,
      ((∃ error, (assembler.runBytes bytes).outcome = .error (.input error)) ↔
        ∃ (lines : List String) (later : List (Option String)),
          Text.byteLines bytes = lines.map some ++ none :: later ∧
            (∀ text ∈ lines, ¬assembler.Stops text) ∧
            (lines.filterMap assembler.table.wordOfText?).length ≤ assembler.config.capacity) ∧
      ((∀ error, (assembler.runBytes bytes).outcome ≠ .error (.input error)) →
        ∃ (lines : List String) (later : List (Option String)),
          Text.byteLines bytes = lines.map some ++ later ∧
            (later = [] ∧ assembler.Passes lines ∨ assembler.EndsAtLast lines) ∧
            assembler.runBytes bytes = assembler.runLines lines) ∧
      (EndsEarly (assembler.runBytes bytes).outcome ↔
        ∃ (front back : ByteArray) (lines : List String), bytes = front ++ back ∧
          (back = .empty ∨ ∃ stem : ByteArray, front = stem.push 0x0A) ∧
          Text.byteLines front = lines.map some ∧ assembler.EndsAtLast lines) ∧
      ∀ (front back other : ByteArray) (lines : List String),
        bytes = front.push 0x0A ++ back → Text.byteLines (front.push 0x0A) = lines.map some →
          assembler.EndsAtLast lines →
            assembler.runBytes (front.push 0x0A ++ other) = assembler.runBytes bytes := by
  refine ⟨assembler.runBytes_toUTF8, fun bytes => ⟨?_, exists_lines_of_readable,
    endsEarly_runBytes_iff, ?_⟩⟩
  · rw [runBytes_eq_input_error_iff]
    constructor
    · rintro ⟨lines, later, cut, unstopped, room⟩
      exact ⟨lines, later, cut, unstopped, room⟩
    · rintro ⟨lines, later, cut, unstopped, room⟩
      exact ⟨lines, later, cut, unstopped, room⟩
  · intro front back other lines same cut ends
    have cutBehind (more : ByteArray) : Text.byteLines (front.push 0x0A ++ more) =
        lines.map some ++ Text.byteLines more := by rw [byteLines_append, cut]
    rw [same, runBytes_of_endsAtLast (cutBehind other) ends,
      runBytes_of_endsAtLast (cutBehind back) ends]

/-- A run that a terminator ends does not notice that the line behind it is no text. -/
theorem runBytes_reads_on_demand_terminated :
    Text.byteLines ("halt\r\n ;;;".toUTF8.push 0x0A ++ ⟨#[0xFF, 0x0A]⟩) =
        [some "halt", some " ;;;", none] ∧
      (builtin (.standard .binary)).runBytes ("halt\r\n ;;;".toUTF8.push 0x0A ++ ⟨#[]⟩) =
        (builtin (.standard .binary)).runBytes
          ("halt\r\n ;;;".toUTF8.push 0x0A ++ ⟨#[0xFF, 0x0A]⟩) := by
  have cut : Text.byteLines ("halt\r\n ;;;".toUTF8.push 0x0A) = ["halt", " ;;;"].map some := by
    decide +kernel
  have ends : (builtin (.standard .binary)).EndsAtLast ["halt", " ;;;"] := by
    refine ⟨["halt"], " ;;;", rfl, ⟨?_, ?_⟩, .inl ?_⟩
    · decide +kernel
    · decide +kernel
    · decide +kernel
  exact ⟨by decide +kernel, ((builtin (.standard .binary)).runBytes_reads_on_demand.2 _).2.2.2
    _ _ _ _ rfl cut ends⟩

end TwinIsa.Assembler
