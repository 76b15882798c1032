import TwinIsa.Assembly
import TwinIsa.Config
import TwinIsa.Instruction
import TwinIsa.Text.Lines

/-!
Assembling a program. A run goes over the lines of a source in order and collects the words of the
lines that encode, a diagnostic for each line that does not, and a log of what happened. It ends at
the last line or at a terminator; an image that is full or a line that cannot be read ends it with
an error. Lines are numbered from one, blank ones included.
-/

namespace TwinIsa

structure Assembler where
  config : Config
  table : OpcodeTable
  isa_eq : config.isa = table.isa

structure Progress where
  image : ProgramImage
  diagnostics : Array Diagnostic
  events : Array Event

namespace Progress

def finish (progress : Progress) (isa : Isa) (terminated : Bool) : Run :=
  { events := progress.events.push
      (.finished progress.image.size progress.diagnostics.size isa)
    outcome := .ok ⟨progress.image, progress.diagnostics, terminated⟩ }

def fail (progress : Progress) (error : AssemblyError) : Run :=
  ⟨progress.events, .error error⟩

def log (progress : Progress) (event : Event) : Progress :=
  { progress with events := progress.events.push event }

def skip (progress : Progress) (diagnostic : Diagnostic) : Progress :=
  { progress with
    diagnostics := progress.diagnostics.push diagnostic
    events := progress.events.push (.skipped diagnostic) }

def store (progress : Progress) (isa : Isa) (text : String) (word : Word) :
    Except CapacityExceeded Progress := do
  let (image, address) ← progress.image.push word
  return { progress with
    image
    events := progress.events.push (.encoded address (isa.formatWord word) text) }

end Progress

namespace Assembler

def builtin (config : Config) : Assembler :=
  ⟨config, config.isa.builtin, rfl⟩

/-- An assembler with another table, whose machine takes the place of the one in the settings. -/
def withTable (config : Config) (table : OpcodeTable) : Assembler :=
  ⟨{ config with isa := table.isa }, table, rfl⟩

def runFrom (assembler : Assembler) :
    Progress → Nat → List (Except InputError String) → Run
  | progress, _, [] => progress.finish assembler.config.isa false
  | progress, _, .error error :: _ => progress.fail (.input error)
  | progress, number, .ok text :: rest =>
      match Line.ofText? text with
      | none => assembler.runFrom progress (number + 1) rest
      | some .terminator =>
          if assembler.config.stopAtTerminator then
            (progress.log (.terminatorReached number)).finish assembler.config.isa true
          else
            assembler.runFrom progress (number + 1) rest
      | some (.instruction line) =>
          match line.encode assembler.table with
          | .error error =>
              assembler.runFrom (progress.skip ⟨number, line.text, error⟩) (number + 1) rest
          | .ok word =>
              match progress.store assembler.config.isa line.text word with
              | .ok progress => assembler.runFrom progress (number + 1) rest
              | .error error => progress.fail (.full error)

def begin (assembler : Assembler) : Progress :=
  ⟨.empty assembler.config.isa assembler.config.capacity, #[], #[]⟩

def runReads (assembler : Assembler) (reads : List (Except InputError String)) : Run :=
  assembler.runFrom assembler.begin 1 reads

def runLines (assembler : Assembler) (lines : List String) : Run :=
  assembler.runReads (lines.map .ok)

def runText (assembler : Assembler) (source : String) : Run :=
  assembler.runLines (Text.lines source)

/-- A run over the lines of a file. A line that is not text matters only if the run gets to it. -/
def runBytes (assembler : Assembler) (source : ByteArray) : Run :=
  assembler.runReads ((Text.byteLines source).map fun
    | some line => .ok line
    | none => .error .notText)

end Assembler

end TwinIsa
