import TwinIsa.Command.Files
import TwinIsa.Command.Help
import TwinIsa.Command.Outcome
import TwinIsa.OpcodeTable.Builtin
import TwinIsa.OpcodeTable.Document
import TwinIsa.Report

/-!
The command that lists an image, as a source text or as a report. The listing is printed unless a
file is named for it. Words that do not decode are counted, but are no failure.
-/

namespace TwinIsa.Command.Disassemble

def name : String := "tri-disasm"

inductive Style where
  | text
  | json
  deriving DecidableEq, Repr

structure Settings where
  isa : Isa := .binary
  table : Option String := none
  style : Style := .text
  showWords : Bool := false
  output : Option String := none
  image : Option String := none

def signature : Signature where
  about := "Disassembler for tri-asm hex images"
  operand := some ⟨"HEXFILE", "Input hex image (one word per line)"⟩
  switches := [
    { name := "isa"
      value := some "ISA"
      about := "Instruction set the image was assembled for"
      preset := some Isa.binary.name
      choices := Isa.all.map Isa.name },
    { name := "table"
      value := some "FILE"
      about := "Opcode table JSON used at assembly time (default: built-in)" },
    { name := "format"
      value := some "FORMAT"
      about := "Output format: text or json"
      preset := some "text"
      choices := ["text", "json"] },
    { name := "show-words"
      about := "Prefix text lines with pc and hex word" },
    { name := "out"
      value := some "FILE"
      about := "Write output to file instead of stdout" }]

namespace Settings

def setIsa (settings : Settings) (value : String) : Except UsageError Settings :=
  match Isa.ofName? value with
  | some isa => .ok { settings with isa }
  | none => .error (.invalidValue "isa" value)

def setStyle (settings : Settings) : String → Except UsageError Settings
  | "text" => .ok { settings with style := .text }
  | "json" => .ok { settings with style := .json }
  | value => .error (.invalidValue "format" value)

def set (settings : Settings) : Argument → Except UsageError Settings
  | .option "isa" value => settings.setIsa value
  | .option "table" value => do
      let path ← pathArgument "table" value
      return { settings with table := some path }
  | .option "format" value => settings.setStyle value
  | .option "out" value => do
      let path ← pathArgument "out" value
      return { settings with output := some path }
  | .flag "show-words" => .ok { settings with showWords := true }
  | .operand value =>
      match settings.image with
      | some _ => .error (.unexpected value)
      | none => do
          let path ← pathArgument "HEXFILE" value
          return { settings with image := some path }
  | _ => .ok settings

def ofArguments (arguments : List String) : Except UsageError (Request Settings) :=
  request set {} (signature.scan [] none arguments)

end Settings

variable {m : Type → Type} [Monad m]

def failure (activity path : String) (error : String) : Failure :=
  ⟨activity ++ " " ++ path, [error]⟩

def tableFailure : TableError → Failure
  | .malformedText => ⟨TableError.malformedText.message, [TableError.malformedDetail]⟩
  | error => ⟨error.message, []⟩

def loadTable (files : Files m) (settings : Settings) : m (Except Failure OpcodeTable) := do
  match settings.table with
  | none => return .ok settings.isa.builtin
  | some path =>
      match ← files.readText path with
      | .error error => return .error (failure "reading" path error.message)
      | .ok text => return (OpcodeTable.ofDocument settings.isa text).mapError tableFailure

def loadImage (files : Files m) (isa : Isa) (path : String) : m (Except Failure HexImage) := do
  match ← files.readText path with
  | .error error => return .error (failure "reading" path error.message)
  | .ok text =>
      return (HexImage.read isa text).mapError fun error => ⟨error.message, error.causes⟩

def render (settings : Settings) (listing : Listing) : String :=
  match settings.style with
  | .json => listing.toJson.pretty ++ "\n"
  | .text => if settings.showWords then listing.numberedText else listing.text

def undecodedText (listing : Listing) : String :=
  if listing.undecoded = 0 then ""
  else
    Numeral.decimalText listing.undecoded ++ " of " ++ Numeral.decimalText listing.words ++
      " words did not decode\n"

def deliver (files : Files m) (settings : Settings) (listing : Listing) : m Outcome := do
  match settings.output with
  | none => return .succeeded (render settings listing) (undecodedText listing)
  | some path =>
      match ← files.writeText path (render settings listing) with
      | .error error => return .failed (failure "writing" path error.message)
      | .ok () => return .succeeded "" (undecodedText listing)

def perform (files : Files m) (settings : Settings) (path : String) : m Outcome := do
  match ← loadTable files settings with
  | .error failure => return .failed failure
  | .ok table =>
      match ← loadImage files settings.isa path with
      | .error failure => return .failed failure
      | .ok image => deliver files settings (.ofImage image table)

def command (files : Files m) (arguments : List String) : m Outcome :=
  match Settings.ofArguments arguments with
  | .error error => return .misused error
  | .ok .help => return .succeeded (signature.helpText name) ""
  | .ok .version => return .succeeded (versionText name) ""
  | .ok (.perform settings) =>
      match settings.image with
      | none => return .misused (.missingOperand "HEXFILE")
      | some path => perform files settings path

end TwinIsa.Command.Disassemble
