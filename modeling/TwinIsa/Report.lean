import TwinIsa.Assembly
import TwinIsa.Json.Writer
import TwinIsa.Listing

/-!
Reports: results as JSON documents. A value that is one of several kinds is an object that begins
with its kind.
-/

namespace TwinIsa

def LineError.toJson (error : LineError) : Json :=
  .object (("kind", .text error.kind) ::
    match error with
    | unknownMnemonic mnemonic => [("mnemonic", .text mnemonic)]
    | operandCount mnemonic expected found =>
        [("mnemonic", .text mnemonic), ("expected", .natural expected), ("found", .natural found)]
    | malformedRegister token => [("token", .text token)]
    | registerOutOfRange token greatest => [("token", .text token), ("max", .natural greatest)]
    | malformedLiteral token => [("token", .text token)]
    | immediateOutOfRange value least greatest =>
        [("value", .integer value), ("min", .integer least), ("max", .integer greatest)])

def Operands.toJson : Operands → Json
  | bare => .object [("shape", .text "none")]
  | registerPair first second =>
      .object [("shape", .text "reg_reg"), ("ra", .natural first), ("rb", .natural second)]
  | registerImmediate register immediate =>
      .object [("shape", .text "reg_imm"), ("ra", .natural register), ("imm", .integer immediate)]
  | memory first second offset =>
      .object [("shape", .text "reg_reg_imm"), ("ra", .natural first), ("rb", .natural second),
        ("imm", .integer offset)]

def Instruction.toJson (instruction : Instruction) : Json :=
  .object [("mnemonic", .text instruction.mnemonic),
    ("opcode", .natural instruction.opcode.toNat), ("format", .text instruction.format.name),
    ("operands", instruction.operands.toJson)]

def ProgramImage.toJson (image : ProgramImage) : Json :=
  .object [("isa", .text image.isa.name), ("capacity", .natural image.capacity),
    ("words", .array (image.words.toList.map fun word => .natural word.toNat))]

def Diagnostic.toJson (diagnostic : Diagnostic) : Json :=
  .object [("line", .natural diagnostic.line), ("text", .text diagnostic.text),
    ("error", diagnostic.error.toJson)]

def Assembly.toJson (assembly : Assembly) : Json :=
  .object [("image", assembly.image.toJson),
    ("diagnostics", .array (assembly.diagnostics.toList.map Diagnostic.toJson)),
    ("terminated", .boolean assembly.terminated)]

def Event.toJson (event : Event) : Json :=
  .object (("level", .text event.level.name) :: ("message", .text event.message) ::
    match event with
    | encoded address hex text =>
        [("pc", .natural address), ("word", .text hex), ("text", .text text)]
    | skipped _ => []
    | terminatorReached line => [("line", .natural line)]
    | finished words errors isa =>
        [("words", .natural words), ("errors", .natural errors), ("isa", .text isa.name)])

def ListingLine.toJson (line : ListingLine) : Json :=
  .object [("pc", .natural line.address), ("word", .text line.hex), ("text", .text line.text),
    ("decoded", (line.instruction?.map Instruction.toJson).getD .null)]

def Listing.toJson (listing : Listing) : Json :=
  .object [("isa", .text listing.isa.name), ("words", .natural listing.words),
    ("undecoded", .natural listing.undecoded),
    ("lines", .array (listing.lines.map ListingLine.toJson))]

end TwinIsa
