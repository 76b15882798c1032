import TwinIsa.Command.Files
import TwinIsa.Command.Help
import TwinIsa.Command.Outcome
import TwinIsa.Assembler
import TwinIsa.OpcodeTable.Builtin
import TwinIsa.OpcodeTable.Document
import TwinIsa.Report

/-!
The command that assembles a source file. It reads all that it needs before it writes anything: the
table, then the source. A table may be printed instead. Lines that are left out are reported when
the run has come to its end, and then the image is written, and the report if there is one.
-/

namespace TwinIsa.Command.Assemble

def name : String := "tri-asm"

structure Settings where
  isa : Isa := .binary
  program : String := "program"
  /-- The path of the source, if it is elsewhere. -/
  source : Option String := none
  output : String := "programs/bin/program.hex"
  toOutput : Bool := false
  table : Option String := none
  dumpTable : Bool := false
  capacity : Nat := standardCapacity
  passTerminators : Bool := false
  report : Option String := none

def signature : Signature where
  about := "Assembler for the binary and ternary ISAs"
  switches := [
    { name := "isa"
      value := some "ISA"
      about := "Target instruction set"
      preset := some Isa.binary.name
      choices := Isa.all.map Isa.name },
    { name := "file"
      value := some "FILE"
      about := "Program name, read from programs/<FILE>.asm"
      preset := some "program" },
    { name := "filepath"
      value := some "FILEPATH"
      about := "Input assembly path (overrides --file)" },
    { name := "output"
      value := some "OUTPUT"
      about := "Output hex path"
      preset := some "programs/bin/program.hex" },
    { name := "stdout"
      about := "Write hex to stdout instead of --output" },
    { name := "table"
      value := some "FILE"
      about := "Opcode table JSON (array of \x7b mnemonic, opcode, format \x7d)" },
    { name := "dump-table"
      about := "Dump the opcode table in use as JSON and exit" },
    { name := "capacity"
      value := some "CAPACITY"
      about := "Program image capacity in words"
      preset := some (Numeral.decimalText standardCapacity) },
    { name := "no-terminator"
      about := "Treat ';;;' as a comment instead of end of program" },
    { name := "report"
      value := some "FILE"
      about := "Write a JSON report of the run (words and skipped lines)" }]

namespace Settings

def setIsa (settings : Settings) (value : String) : Except UsageError Settings :=
  match Isa.ofName? value with
  | some isa => .ok { settings with isa }
  | none => .error (.invalidValue "isa" value)

/-- The settings with a capacity. A capacity of nothing is refused only when the command runs. -/
def setCapacity (settings : Settings) (value : String) : Except UsageError Settings :=
  match numberArgument? Config.greatestCapacity value with
  | some capacity => .ok { settings with capacity }
  | none => .error (.invalidValue "capacity" value)

def set (settings : Settings) : Argument → Except UsageError Settings
  | .option "isa" value => settings.setIsa value
  | .option "file" value => .ok { settings with program := value }
  | .option "filepath" value => do
      let path ← pathArgument "filepath" value
      return { settings with source := some path }
  | .option "output" value => do
      let path ← pathArgument "output" value
      return { settings with output := path }
  | .option "table" value => do
      let path ← pathArgument "table" value
      return { settings with table := some path }
  | .option "capacity" value => settings.setCapacity value
  | .option "report" value => do
      let path ← pathArgument "report" value
      return { settings with report := some path }
  | .flag "stdout" => .ok { settings with toOutput := true }
  | .flag "dump-table" => .ok { settings with dumpTable := true }
  | .flag "no-terminator" => .ok { settings with passTerminators := true }
  | .operand value => .error (.unexpected value)
  | _ => .ok settings

def sourcePath (settings : Settings) : String :=
  settings.source.getD ("programs/" ++ settings.program ++ ".asm")

def config (settings : Settings) : Config :=
  ⟨settings.isa, settings.capacity, !settings.passTerminators⟩

def ofArguments (arguments : List String) : Except UsageError (Request Settings) :=
  request set {} (signature.scan [] none arguments)

end Settings

def failure (activity path : String) (causes : List String) : Failure :=
  ⟨activity ++ " " ++ path, causes⟩

def tableCauses : TableError → List String
  | .malformedText => [TableError.malformedText.message, TableError.malformedDetail]
  | error => [error.message]

variable {m : Type → Type} [Monad m]

def loadTable (files : Files m) (settings : Settings) : m (Except Failure OpcodeTable) := do
  match settings.table with
  | none => return .ok settings.isa.builtin
  | some path =>
      match ← files.readText path with
      | .error error => return .error (failure "reading" path [error.message])
      | .ok text =>
          match OpcodeTable.ofDocument settings.isa text with
          | .error error => return .error (failure "loading table" path (tableCauses error))
          | .ok table => return .ok table

def run (assembler : Assembler) : Opened → Run
  | .bytes contents => assembler.runBytes contents
  | .directory =>
      assembler.runReads [.error (.unavailable SystemError.isADirectory.message)]

def assemble (files : Files m) (settings : Settings) (table : OpcodeTable) :
    m (Except Failure Assembly) := do
  let path := settings.sourcePath
  match ← files.openPath path with
  | .error error => return .error (failure "opening" path [error.message])
  | .ok opened =>
      match (run (.withTable settings.config table) opened).outcome with
      | .error error => return .error (failure "assembling" path (error.message :: error.causes))
      | .ok assembly => return .ok assembly

def writeImage (files : Files m) (settings : Settings) (assembly : Assembly) :
    m (Except Failure Unit) := do
  let path := settings.output
  let surroundings := parents path
  match ← files.makeDirectories surroundings with
  | .error error =>
      return .error (failure "creating" (surroundings.head?.getD "") [error.message])
  | .ok () =>
      match ← files.writeText path assembly.image.hexText with
      | .error error => return .error (failure "writing" path [error.message])
      | .ok () => return .ok ()

def writeReport (files : Files m) (settings : Settings) (assembly : Assembly) :
    m (Except Failure Unit) := do
  match settings.report with
  | none => return .ok ()
  | some path =>
      match ← files.writeText path assembly.toJson.pretty with
      | .error error => return .error (failure "writing" path [error.message])
      | .ok () => return .ok ()

def deliver (files : Files m) (settings : Settings) (assembly : Assembly) :
    m (Except Failure Unit) := do
  let written ← if settings.toOutput then pure (.ok ()) else writeImage files settings assembly
  match written with
  | .error failure => return .error failure
  | .ok () => writeReport files settings assembly

def diagnosticsText (assembly : Assembly) : String :=
  String.join (assembly.diagnostics.toList.map (·.message ++ "\n"))

def perform (files : Files m) (settings : Settings) : m Outcome := do
  if settings.capacity = 0 then
    return .failed ⟨"--capacity must be positive", []⟩
  match ← loadTable files settings with
  | .error failure => return .failed failure
  | .ok table =>
      if settings.dumpTable then
        return .succeeded (table.document ++ "\n") ""
      match ← assemble files settings table with
      | .error failure => return .failed failure
      | .ok assembly =>
          let output := if settings.toOutput then assembly.image.hexText else ""
          match ← deliver files settings assembly with
          | .error failure => return ⟨1, output, diagnosticsText assembly ++ failure.text⟩
          | .ok () =>
              return .succeeded output (diagnosticsText assembly ++ assembly.summary ++ "\n")

def command (files : Files m) (arguments : List String) : m Outcome :=
  match Settings.ofArguments arguments with
  | .error error => return .misused error
  | .ok .help => return .succeeded (signature.helpText name) ""
  | .ok .version => return .succeeded (versionText name) ""
  | .ok (.perform settings) => perform files settings

end TwinIsa.Command.Assemble
