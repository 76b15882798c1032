import TwinIsa.Proofs.ByteSources
import TwinIsa.Proofs.Command.Courses
import TwinIsa.Proofs.Command.FileTree

/-!
What the assembling command says of lines that it leaves out. Diagnostics are printed when the run
has come to its end, so a run that is given up takes them with it.
-/

namespace TwinIsa.Command

def Opened.reads : Opened → List (Except InputError String)
  | .bytes contents => (Text.byteLines contents).map Assembler.readOfLine
  | .directory => [.error (.unavailable SystemError.isADirectory.message)]

namespace Assemble

theorem run_eq_runReads (assembler : Assembler) (opened : Opened) :
    run assembler opened = assembler.runReads opened.reads := by
  cases opened with
  | bytes contents => exact Assembler.runBytes_eq_runReads contents
  | directory => rfl

theorem errors_concluded (settings : Settings) (assembly : Assembly)
    (delivered : Except Failure Unit) :
    ∃ later, (concluded settings assembly delivered).errors =
      String.join (assembly.diagnostics.toList.map (·.message ++ "\n")) ++ later := by
  cases delivered with
  | error failure => exact ⟨failure.text, rfl⟩
  | ok done => exact ⟨assembly.summary ++ "\n", String.append_assoc⟩

theorem diagnostics_of_ends {assembler : Assembler} {lines : List String}
    {rest : List (Except InputError String)} {run : Run} {assembly : Assembly}
    (ends : assembler.Ends lines rest run) (completed : run.outcome = .ok assembly) :
    assembly.diagnostics.toList = assembler.table.diagnostics lines := by
  cases ends with
  | exhausted =>
      cases completed
      rfl
  | unreadable error later => cases completed
  | terminator stops later =>
      cases completed
      rfl
  | full found noRoom later => cases completed

/-- When the command comes to assemble, the run gets past some lines and ends at what comes behind
them. If it comes to its end, the diagnostics of all these lines are the first thing that is printed
to the errors, whatever becomes of the results. If it is given up, for lack of room or at a line
that cannot be read, the failure is all that is printed. -/
theorem diagnostics_reported_unless_abandoned {σ κ : Type} {system : FileSystem σ κ}
    (lawful : system.Lawful) {arguments : List String} {settings : Settings}
    (asked : Settings.ofArguments arguments = .ok (.perform settings)) {before : σ}
    {table : OpcodeTable} {opened : Opened}
    (begins : Begins system settings before table opened) :
    ∃ lines rest, opened.reads = lines.map .ok ++ rest ∧
      (Assembler.withTable settings.config table).Passes lines ∧
      (Assembler.withTable settings.config table).Ends lines rest
        (run (.withTable settings.config table) opened) ∧
      (∀ assembly, (run (.withTable settings.config table) opened).outcome = .ok assembly →
        ∃ later, (command system.files arguments before).1.errors =
          String.join ((table.diagnostics lines).map (·.message ++ "\n")) ++ later) ∧
      ∀ error, (run (.withTable settings.config table) opened).outcome = .error error →
        command system.files arguments before =
          (.failed (failure "assembling" settings.sourcePath (error.message :: error.causes)),
            before) := by
  rcases (Assembler.withTable settings.config table).exists_ends opened.reads with
    ⟨lines, rest, cut, passes, ends⟩
  rw [← run_eq_runReads] at ends
  refine ⟨lines, rest, cut, passes, ends, ?_, ?_⟩
  · intro assembly completed
    rw [command, asked]
    dsimp only
    rw [perform_of_completes lawful ⟨table, opened, begins, completed⟩]
    have same := diagnostics_of_ends ends completed
    have starts := errors_concluded settings assembly
      (deliver system.files settings assembly before).1
    rw [same] at starts
    exact starts
  · intro error failed
    rw [command, asked]
    exact perform_of_obstacle lawful (.abandoned begins failed)

theorem diagnostics_reported_unless_abandoned_full :
    command FileTree.system.files ["--capacity", "1"]
        (.ofProgram "BOGUS\nLI R1, 1\nLI R1, 2\n") =
      (.failed ⟨"assembling programs/program.asm", ["program image full: more than 1 words"]⟩,
        .ofProgram "BOGUS\nLI R1, 1\nLI R1, 2\n") ∧
    ∃ lines rest later,
      Opened.reads (.bytes "BOGUS\nLI R1, 1\n".toUTF8) = lines.map .ok ++ rest ∧
        (command FileTree.system.files ["--capacity", "1"]
            (.ofProgram "BOGUS\nLI R1, 1\n")).1.errors =
          String.join ((Isa.binary.builtin.diagnostics lines).map (·.message ++ "\n")) ++ later := by
  have asked : Settings.ofArguments ["--capacity", "1"] = .ok (.perform { capacity := 1 }) := rfl
  have begins (source : String) : Begins FileTree.system { capacity := 1 } (.ofProgram source)
      Isa.binary.builtin (.bytes source.toUTF8) :=
    ⟨⟨Nat.one_ne_zero, .builtin rfl⟩, rfl, FileTree.opened_ofProgram source⟩
  constructor
  · rcases diagnostics_reported_unless_abandoned FileTree.lawful_system asked
      (begins "BOGUS\nLI R1, 1\nLI R1, 2\n") with ⟨_, _, _, _, _, _, abandoned⟩
    exact abandoned (.full ⟨1⟩) (by decide +kernel)
  · rcases diagnostics_reported_unless_abandoned FileTree.lawful_system asked
      (begins "BOGUS\nLI R1, 1\n") with ⟨lines, rest, cut, _, _, reported, _⟩
    have completes : (run (.withTable ⟨.binary, 1, true⟩ Isa.binary.builtin)
        (.bytes "BOGUS\nLI R1, 1\n".toUTF8)).outcome.toOption.isSome = true := by decide +kernel
    rcases Option.isSome_iff_exists.mp completes with ⟨assembly, found⟩
    have completed := toOption_eq_some_iff.mp found
    rcases reported assembly completed with ⟨later, errors⟩
    exact ⟨lines, rest, later, cut, errors⟩

/-- The line that is left out of a program without room for the others is not reported. -/
theorem abandoned_run_loses_diagnostic :
    Settings.ofArguments ["--capacity", "1"] = .ok (.perform { capacity := 1 }) ∧
      Begins FileTree.system { capacity := 1 } (.ofProgram "BOGUS\nLI R1, 1\nLI R1, 2\n")
        Isa.binary.builtin (.bytes "BOGUS\nLI R1, 1\nLI R1, 2\n".toUTF8) ∧
      Opened.reads (.bytes "BOGUS\nLI R1, 1\nLI R1, 2\n".toUTF8) =
        [.ok "BOGUS", .ok "LI R1, 1", .ok "LI R1, 2"] ∧
      (Assembler.withTable ⟨.binary, 1, true⟩ Isa.binary.builtin).Passes ["BOGUS", "LI R1, 1"] ∧
      (run (.withTable ⟨.binary, 1, true⟩ Isa.binary.builtin)
        (.bytes "BOGUS\nLI R1, 1\nLI R1, 2\n".toUTF8)).outcome = .error (.full ⟨1⟩) ∧
      Isa.binary.builtin.diagnostics ["BOGUS", "LI R1, 1"] =
        [⟨1, "BOGUS", .unknownMnemonic "BOGUS"⟩] ∧
      ¬(Diagnostic.message ⟨1, "BOGUS", .unknownMnemonic "BOGUS"⟩).toList <:+:
        (command FileTree.system.files ["--capacity", "1"]
          (.ofProgram "BOGUS\nLI R1, 1\nLI R1, 2\n")).1.errors.toList := by
  have told : (command FileTree.system.files ["--capacity", "1"]
      (.ofProgram "BOGUS\nLI R1, 1\nLI R1, 2\n")).1.errors =
        "Error: assembling programs/program.asm\n\nCaused by:\n" ++
          "    program image full: more than 1 words\n" := by decide +kernel
  refine ⟨rfl, ⟨⟨Nat.one_ne_zero, .builtin rfl⟩, rfl, FileTree.opened_ofProgram _⟩, ?_, ⟨?_, ?_⟩,
    ?_, ?_, ?_⟩
  · decide +kernel
  · decide +kernel
  · decide +kernel
  · decide +kernel
  · decide +kernel
  · rw [told]
    decide +kernel

end Assemble

end TwinIsa.Command
