import TwinIsa.Command.Assemble
import TwinIsa.Command.Disassemble
import TwinIsa.Proofs.Command.FileSystem

/-!
The courses that commands take. Each command looks at all that it needs first, and gives up at the
first thing that is missing or wrong; nothing has changed by then. What it writes it writes at the
end, and a course tells which files that can change.
-/

namespace TwinIsa.Command

namespace Assemble

section

variable {σ κ : Type} (system : FileSystem σ κ) (settings : Settings) (state : σ)

inductive Loads : OpcodeTable → Prop
  | builtin (unnamed : settings.table = none) : Loads settings.isa.builtin
  | document {path text : String} {table : OpcodeTable} (named : settings.table = some path)
      (readable : system.text state path = .ok text)
      (accepted : OpcodeTable.ofDocument settings.isa text = .ok table) : Loads table

structure Ready (table : OpcodeTable) : Prop where
  capacity : settings.capacity ≠ 0
  loads : Loads system settings state table

structure Dumps (table : OpcodeTable) : Prop extends Ready system settings state table where
  dumps : settings.dumpTable = true

structure Begins (table : OpcodeTable) (opened : Opened) : Prop
    extends Ready system settings state table where
  noDump : settings.dumpTable = false
  source : system.opened state settings.sourcePath = .ok opened

/-- What keeps the command from its work, with the failure that tells of it. -/
inductive Obstacle : Failure → Prop
  | noCapacity (nothing : settings.capacity = 0) : Obstacle ⟨"--capacity must be positive", []⟩
  | unreadableTable {path : String} {error : InputError} (capacity : settings.capacity ≠ 0)
      (named : settings.table = some path) (unreadable : system.text state path = .error error) :
      Obstacle (failure "reading" path [error.message])
  | invalidTable {path text : String} {error : TableError} (capacity : settings.capacity ≠ 0)
      (named : settings.table = some path) (readable : system.text state path = .ok text)
      (rejected : OpcodeTable.ofDocument settings.isa text = .error error) :
      Obstacle (failure "loading table" path (tableCauses error))
  | missingSource {table : OpcodeTable} {error : SystemError}
      (ready : Ready system settings state table) (noDump : settings.dumpTable = false)
      (missing : system.opened state settings.sourcePath = .error error) :
      Obstacle (failure "opening" settings.sourcePath [error.message])
  | abandoned {table : OpcodeTable} {opened : Opened} {error : AssemblyError}
      (begins : Begins system settings state table opened)
      (failed : (run (.withTable settings.config table) opened).outcome = .error error) :
      Obstacle (failure "assembling" settings.sourcePath (error.message :: error.causes))

def Completes (assembly : Assembly) : Prop :=
  ∃ table opened, Begins system settings state table opened ∧
    (run (.withTable settings.config table) opened).outcome = .ok assembly

def resultPaths (settings : Settings) : List String :=
  (if settings.toOutput then [] else [settings.output]) ++ settings.report.toList

def printedImage (settings : Settings) (assembly : Assembly) : String :=
  if settings.toOutput then assembly.image.hexText else ""

end

def concluded (settings : Settings) (assembly : Assembly) : Except Failure Unit → Outcome
  | .error failure =>
      ⟨1, printedImage settings assembly, diagnosticsText assembly ++ failure.text⟩
  | .ok () =>
      .succeeded (printedImage settings assembly)
        (diagnosticsText assembly ++ assembly.summary ++ "\n")

/-! ## What comes before delivery -/

section

variable {σ κ : Type} {system : FileSystem σ κ} {settings : Settings} {state : σ}

theorem obstacle_or_ready (system : FileSystem σ κ) (settings : Settings) (state : σ) :
    (∃ failure, Obstacle system settings state failure) ∨
      ∃ table, Ready system settings state table := by
  rcases Decidable.em (settings.capacity = 0) with nothing | capacity
  · exact .inl ⟨_, .noCapacity nothing⟩
  cases named : settings.table with
  | none => exact .inr ⟨_, capacity, .builtin named⟩
  | some path =>
      cases readable : system.text state path with
      | error error => exact .inl ⟨_, .unreadableTable capacity named readable⟩
      | ok text =>
          cases accepted : OpcodeTable.ofDocument settings.isa text with
          | error error => exact .inl ⟨_, .invalidTable capacity named readable accepted⟩
          | ok table => exact .inr ⟨_, capacity, .document named readable accepted⟩

/-- Something is in the way, or the table is printed, or the run comes to its end. -/
theorem course_cases (system : FileSystem σ κ) (settings : Settings) (state : σ) :
    (∃ failure, Obstacle system settings state failure) ∨
      (∃ table, Dumps system settings state table) ∨
      ∃ assembly, Completes system settings state assembly := by
  rcases obstacle_or_ready system settings state with obstacle | ⟨table, ready⟩
  · exact .inl obstacle
  cases dumps : settings.dumpTable with
  | true => exact .inr (.inl ⟨table, ready, dumps⟩)
  | false =>
      cases source : system.opened state settings.sourcePath with
      | error error => exact .inl ⟨_, .missingSource ready dumps source⟩
      | ok opened =>
          have begins : Begins system settings state table opened := ⟨ready, dumps, source⟩
          cases completed : (run (.withTable settings.config table) opened).outcome with
          | error error => exact .inl ⟨_, .abandoned begins completed⟩
          | ok assembly => exact .inr (.inr ⟨assembly, table, opened, begins, completed⟩)

variable (lawful : system.Lawful)
include lawful

theorem loadTable_of_loads {table : OpcodeTable} (loads : Loads system settings state table) :
    loadTable system.files settings state = (.ok table, state) := by
  cases loads with
  | builtin unnamed =>
      rw [loadTable, unnamed]
      rfl
  | document named readable accepted =>
      rw [loadTable, named]
      dsimp only
      rw [lawful.readText_bind_of_eq readable]
      dsimp only
      rw [accepted]
      rfl

theorem assemble_of_opened {opened : Opened}
    (source : system.opened state settings.sourcePath = .ok opened) (table : OpcodeTable) :
    assemble system.files settings table state =
      ((run (.withTable settings.config table) opened).outcome.mapError fun error =>
        failure "assembling" settings.sourcePath (error.message :: error.causes), state) := by
  rw [assemble, lawful.openPath_bind_of_eq source]
  dsimp only
  cases (run (.withTable settings.config table) opened).outcome with
  | error error => rfl
  | ok assembly => rfl

theorem perform_of_begins {table : OpcodeTable} {opened : Opened}
    (begins : Begins system settings state table opened) :
    perform system.files settings state =
      match (run (.withTable settings.config table) opened).outcome with
      | .error error =>
          (.failed (failure "assembling" settings.sourcePath (error.message :: error.causes)),
            state)
      | .ok assembly =>
          (concluded settings assembly (deliver system.files settings assembly state).1,
            (deliver system.files settings assembly state).2) := by
  rw [perform, if_neg begins.capacity, bind_of_eq (loadTable_of_loads lawful begins.loads)]
  dsimp only
  rw [begins.noDump, if_neg Bool.false_ne_true,
    bind_of_eq (assemble_of_opened lawful begins.source table)]
  cases (run (.withTable settings.config table) opened).outcome with
  | error error => rfl
  | ok assembly =>
      dsimp only
      rcases delivery : deliver system.files settings assembly state with ⟨delivered, after⟩
      refine (bind_of_eq delivery _).trans ?_
      cases delivered with
      | error failure => rfl
      | ok done => rfl

/-- Whatever is in the way, the command says so, prints nothing else and changes nothing. -/
theorem perform_of_obstacle {failure : Failure}
    (obstacle : Obstacle system settings state failure) :
    perform system.files settings state = (.failed failure, state) := by
  cases obstacle with
  | noCapacity nothing =>
      rw [perform, if_pos nothing]
      rfl
  | unreadableTable capacity named unreadable =>
      rw [perform, if_neg capacity, loadTable, named]
      dsimp only
      rw [bind_assoc, lawful.readText_bind_of_eq unreadable]
      rfl
  | invalidTable capacity named readable rejected =>
      rw [perform, if_neg capacity, loadTable, named]
      dsimp only
      rw [bind_assoc, lawful.readText_bind_of_eq readable]
      dsimp only
      rw [rejected]
      rfl
  | missingSource ready noDump missing =>
      rw [perform, if_neg ready.capacity, bind_of_eq (loadTable_of_loads lawful ready.loads)]
      dsimp only
      rw [noDump, if_neg Bool.false_ne_true, assemble, bind_assoc,
        lawful.openPath_bind_of_eq missing]
      rfl
  | abandoned begins failed =>
      rw [perform_of_begins lawful begins, failed]

theorem perform_of_dumps {table : OpcodeTable} (dumps : Dumps system settings state table) :
    perform system.files settings state = (.succeeded (table.document ++ "\n") "", state) := by
  rw [perform, if_neg dumps.capacity, bind_of_eq (loadTable_of_loads lawful dumps.loads)]
  dsimp only
  rw [if_pos dumps.dumps]
  rfl

theorem perform_of_completes {assembly : Assembly}
    (completes : Completes system settings state assembly) :
    perform system.files settings state =
      (concluded settings assembly (deliver system.files settings assembly state).1,
        (deliver system.files settings assembly state).2) := by
  rcases completes with ⟨table, opened, begins, completed⟩
  rw [perform_of_begins lawful begins, completed]

/-! ## Delivery -/

theorem writeImage_touches (settings : Settings) (assembly : Assembly) :
    system.Touches [settings.output] (writeImage system.files settings assembly) := by
  apply ((lawful.makeDirectories_touches (parents settings.output)).mono
    (List.nil_subset _)).bind
  intro made
  cases made with
  | error error => exact .of_looks (Looks.pure _)
  | ok done =>
      apply (lawful.writeText_touches settings.output assembly.image.hexText).bind
      intro written
      cases written with
      | error error => exact .of_looks (Looks.pure _)
      | ok done => exact .of_looks (Looks.pure _)

theorem writeReport_touches (settings : Settings) (assembly : Assembly) :
    system.Touches settings.report.toList (writeReport system.files settings assembly) := by
  unfold writeReport
  cases settings.report with
  | none => exact .of_looks (Looks.pure _)
  | some path =>
      apply (lawful.writeText_touches path assembly.toJson.pretty).bind
      intro written
      cases written with
      | error error => exact .of_looks (Looks.pure _)
      | ok done => exact .of_looks (Looks.pure _)

theorem deliver_touches (settings : Settings) (assembly : Assembly) :
    system.Touches (resultPaths settings) (deliver system.files settings assembly) := by
  have reported : ∀ written : Except Failure Unit, system.Touches (resultPaths settings)
      (match written with
        | .error failure => pure (.error failure)
        | .ok () => writeReport system.files settings assembly) := by
    intro written
    cases written with
    | error error => exact .of_looks (Looks.pure _)
    | ok done =>
        exact (writeReport_touches lawful settings assembly).mono
          (List.subset_append_right _ _)
  unfold deliver
  cases printed : settings.toOutput with
  | true => exact (FileSystem.Touches.of_looks (Looks.pure _)).bind reported
  | false =>
      apply FileSystem.Touches.bind _ reported
      apply (writeImage_touches lawful settings assembly).mono
      rw [resultPaths, printed]
      exact List.subset_append_left _ _

end

end Assemble

/-! ## The listing of an image -/

namespace Disassemble

section

variable {σ κ : Type} (system : FileSystem σ κ) (settings : Settings) (state : σ)

inductive Course : Outcome → σ → Prop
  | failed {failure : Failure} {after : σ} (unchanged : system.ChangesOnly [] state after) :
      Course (.failed failure) after
  | printed (listing : Listing) (unnamed : settings.output = none) :
      Course (.succeeded (render settings listing) (undecodedText listing)) state
  | written {path : String} {after : σ} (listing : Listing) (named : settings.output = some path)
      (changes : system.ChangesOnly [path] state after) :
      Course (.succeeded "" (undecodedText listing)) after

variable {system} (lawful : system.Lawful)
include lawful

theorem loadTable_looks : Looks (loadTable system.files settings) := by
  unfold loadTable
  split
  · exact Looks.pure _
  next path named =>
    apply (lawful.readText_looks path).bind
    intro read
    cases read with
    | error error => exact Looks.pure _
    | ok text => exact Looks.pure _

theorem loadImage_looks (path : String) : Looks (loadImage system.files settings.isa path) := by
  apply (lawful.readText_looks path).bind
  intro read
  cases read with
  | error error => exact Looks.pure _
  | ok text => exact Looks.pure _

theorem deliver_course (listing : Listing) :
    Course system settings state (deliver system.files settings listing state).1
      (deliver system.files settings listing state).2 := by
  unfold deliver
  cases named : settings.output with
  | none => exact .printed listing named
  | some path =>
      dsimp only
      rcases written : system.files.writeText path (render settings listing) state with
        ⟨outcome, after⟩
      rw [bind_of_eq written]
      cases outcome with
      | error error => exact .failed (lawful.writeText_of_error _ _ _ _ _ written)
      | ok done => exact .written listing named (lawful.writeText_of_ok _ _ _ _ written)

theorem perform_course (path : String) :
    Course system settings state (perform system.files settings path state).1
      (perform system.files settings path state).2 := by
  rw [perform, (loadTable_looks settings lawful).bind_eq]
  cases (loadTable system.files settings state).1 with
  | error failure => exact .failed (.refl state)
  | ok table =>
      dsimp only
      rw [(loadImage_looks settings lawful path).bind_eq]
      cases (loadImage system.files settings.isa path state).1 with
      | error failure => exact .failed (.refl state)
      | ok image => exact deliver_course settings state lawful (.ofImage image table)

end

end Disassemble

end TwinIsa.Command
