import TwinIsa.Proofs.Command.Courses
import TwinIsa.Proofs.Command.FileTree

/-!
What commands do to files. Nothing changes unless the work has succeeded: whatever keeps a command
from it is found before anything is written, and no files change but those named for results.
-/

namespace TwinIsa.Command

namespace Assemble

variable {σ κ : Type} {system : FileSystem σ κ} {settings : Settings} {before : σ}

theorem cause_of_status (lawful : system.Lawful)
    (fails : (perform system.files settings before).1.status ≠ 0) :
    (∃ failure, Obstacle system settings before failure) ∨
      ∃ assembly failure, Completes system settings before assembly ∧
        (deliver system.files settings assembly before).1 = .error failure := by
  rcases course_cases system settings before with obstacle | ⟨table, dumps⟩ | ⟨assembly, completes⟩
  · exact .inl obstacle
  · rw [perform_of_dumps lawful dumps] at fails
    exact absurd rfl fails
  · rw [perform_of_completes lawful completes] at fails
    cases delivered : (deliver system.files settings assembly before).1 with
    | error failure => exact .inr ⟨assembly, failure, completes, delivered⟩
    | ok done =>
        rw [delivered] at fails
        exact absurd rfl fails

theorem perform_unchanged_of_dumpTable (lawful : system.Lawful)
    (dumps : settings.dumpTable = true) : (perform system.files settings before).2 = before := by
  rcases course_cases system settings before with
    ⟨failure, obstacle⟩ | ⟨table, dumped⟩ | ⟨assembly, _, _, begins, _⟩
  · rw [perform_of_obstacle lawful obstacle]
  · rw [perform_of_dumps lawful dumped]
  · exact absurd dumps (Bool.eq_false_iff.mp begins.noDump)

theorem perform_touches (lawful : system.Lawful) (settings : Settings) :
    system.Touches (resultPaths settings) (perform system.files settings) := by
  intro before
  rcases course_cases system settings before with
    ⟨failure, obstacle⟩ | ⟨table, dumps⟩ | ⟨assembly, completes⟩
  · rw [perform_of_obstacle lawful obstacle]
    exact .refl before
  · rw [perform_of_dumps lawful dumps]
    exact .refl before
  · rw [perform_of_completes lawful completes]
    exact deliver_touches lawful settings assembly before

end Assemble

theorem Disassemble.Course.effects {σ κ : Type} {system : FileSystem σ κ}
    {settings : Disassemble.Settings} {before after : σ} {outcome : Outcome}
    (course : Disassemble.Course system settings before outcome after) :
    outcome.status = 0 ∧ system.ChangesOnly settings.output.toList before after ∧
        (settings.output ≠ none → outcome.output = "") ∨
      outcome.status = 1 ∧ outcome.output = "" ∧
        ∀ place, system.contents? after place = system.contents? before place := by
  cases course with
  | failed unchanged => exact .inr ⟨rfl, rfl, unchanged.contents?_eq⟩
  | printed listing unnamed =>
      exact .inl ⟨rfl, .refl before, fun named => absurd unnamed named⟩
  | written listing named changes =>
      rw [named]
      exact .inl ⟨rfl, changes, fun _ => rfl⟩

/-- A command that is kept from its work, or that prints a table or a version, leaves everything as
it was, and when it is kept from its work it prints nothing but the failure. Otherwise no files
change but those that its settings name for results; for the command that lists an image there are
such changes only if it succeeds, and then it prints nothing else. -/
theorem command_changes_only_results {σ κ : Type} (system : FileSystem σ κ)
    (lawful : system.Lawful) (arguments : List String) (before : σ) :
    (∀ settings, Assemble.Settings.ofArguments arguments = .ok (.perform settings) →
      ∃ outcome after, Assemble.command system.files arguments before = (outcome, after) ∧
        (∀ failure, Assemble.Obstacle system settings before failure →
          outcome = .failed failure ∧ after = before) ∧
        (outcome.status ≠ 0 → (∃ failure, Assemble.Obstacle system settings before failure) ∨
          ∃ assembly failure, Assemble.Completes system settings before assembly ∧
            (Assemble.deliver system.files settings assembly before).1 = .error failure) ∧
        (settings.dumpTable = true → after = before) ∧
        system.ChangesOnly (Assemble.resultPaths settings) before after) ∧
    (∀ settings path, Disassemble.Settings.ofArguments arguments = .ok (.perform settings) →
      settings.image = some path →
        ∃ outcome after, Disassemble.command system.files arguments before = (outcome, after) ∧
          (outcome.status = 0 ∧ system.ChangesOnly settings.output.toList before after ∧
              (settings.output ≠ none → outcome.output = "") ∨
            outcome.status = 1 ∧ outcome.output = "" ∧
              ∀ place, system.contents? after place = system.contents? before place)) ∧
    (Assemble.Settings.ofArguments arguments = .ok .version →
      (Assemble.command system.files arguments before).2 = before) ∧
    (Disassemble.Settings.ofArguments arguments = .ok .version →
      (Disassemble.command system.files arguments before).2 = before) := by
  refine ⟨?_, ?_, ?_, ?_⟩
  · intro settings asked
    rw [Assemble.command, asked]
    refine ⟨(Assemble.perform system.files settings before).1,
      (Assemble.perform system.files settings before).2, rfl, ?_, Assemble.cause_of_status lawful,
      Assemble.perform_unchanged_of_dumpTable lawful, Assemble.perform_touches lawful settings before⟩
    intro failure obstacle
    rw [Assemble.perform_of_obstacle lawful obstacle]
    exact ⟨rfl, rfl⟩
  · intro settings path asked image
    rw [Disassemble.command, asked]
    dsimp only
    rw [image]
    exact ⟨(Disassemble.perform system.files settings path before).1,
      (Disassemble.perform system.files settings path before).2, rfl,
      (Disassemble.perform_course settings before lawful path).effects⟩
  · intro asked
    rw [Assemble.command, asked]
    rfl
  · intro asked
    rw [Disassemble.command, asked]
    rfl

/-- A report is all that changes when the image is printed; without capacity nothing does, nor when
there is no image to list. -/
theorem command_changes_only_results_halt :
    (FileTree.system.ChangesOnly ["r.json"] (.ofProgram "HALT\n")
        (Assemble.command FileTree.system.files ["--stdout", "--report", "r.json"]
          (.ofProgram "HALT\n")).2 ∧
      ((Assemble.command FileTree.system.files ["--stdout", "--report", "r.json"]
          (.ofProgram "HALT\n")).2.contents? ["r.json"]).isSome = true) ∧
    Assemble.command FileTree.system.files ["--capacity", "0"] (.ofProgram "HALT\n") =
      (.failed ⟨"--capacity must be positive", []⟩, .ofProgram "HALT\n") ∧
    ∀ place, FileTree.system.contents? (Disassemble.command FileTree.system.files
        ["--out", "a.asm", "gone.hex"] (.ofProgram "HALT\n")).2 place =
      FileTree.system.contents? (.ofProgram "HALT\n") place := by
  have effects := command_changes_only_results FileTree.system FileTree.lawful_system
  refine ⟨⟨?_, by decide +kernel⟩, ?_, ?_⟩
  · rcases (effects ["--stdout", "--report", "r.json"] (.ofProgram "HALT\n")).1
      { toOutput := true, report := some "r.json" } rfl with
      ⟨outcome, after, result, _, _, _, changes⟩
    rw [result]
    exact changes
  · rcases (effects ["--capacity", "0"] (.ofProgram "HALT\n")).1 { capacity := 0 } rfl with
      ⟨outcome, after, result, obstructed, _⟩
    rcases obstructed _ (.noCapacity rfl) with ⟨rfl, rfl⟩
    exact result
  · have fails : (Disassemble.command FileTree.system.files ["--out", "a.asm", "gone.hex"]
        (.ofProgram "HALT\n")).1.status ≠ 0 := by decide +kernel
    rcases (effects ["--out", "a.asm", "gone.hex"] (.ofProgram "HALT\n")).2.1
      { output := some "a.asm", image := some "gone.hex" } "gone.hex" rfl rfl with
      ⟨outcome, after, result, ⟨succeeded, _⟩ | ⟨_, _, unchanged⟩⟩
    · rw [result] at fails
      exact absurd succeeded fails
    · rw [result]
      exact unchanged

end TwinIsa.Command
