import Mathlib.Data.List.Sort
import TwinIsa.Instruction
import TwinIsa.OpcodeTable.Document

/-!
Opcode tables for quick search: a map from mnemonics to opcodes and formats, and a map from opcodes
back to mnemonics. Lines are encoded by the first map. A word is decoded by both, one after the
other: its opcode gives a mnemonic, and the mnemonic a format. The rows are listed from the first
map, which holds them in no order, and sorted afterwards.
-/

namespace TwinIsa

structure Entry where
  opcode : Word
  format : Format
  deriving DecidableEq, Repr

def Row.entry (row : Row) : Entry := ⟨row.opcode, row.format⟩

structure TableMaps where
  isa : Isa
  byName : Std.HashMap String Entry
  byOpcode : Std.HashMap Word String

namespace TableMaps

def lookup? (maps : TableMaps) (mnemonic : String) : Option Entry :=
  maps.byName[mnemonic]?

def mnemonicFor? (maps : TableMaps) (opcode : Word) : Option String :=
  maps.byOpcode[opcode]?

def size (maps : TableMaps) : Nat := maps.byName.size

def isEmpty (maps : TableMaps) : Bool := maps.byName.isEmpty

/-! ## Filling the maps -/

def empty (isa : Isa) : TableMaps := ⟨isa, ∅, ∅⟩

def put (maps : TableMaps) (row : Row) : TableMaps :=
  { maps with
    byName := maps.byName.insert row.mnemonic row.entry
    byOpcode := maps.byOpcode.insert row.opcode row.mnemonic }

/-- The maps of the rows that a machine comes with, which nothing is asked of. -/
def builtin (isa : Isa) : TableMaps :=
  isa.rows.foldl put (empty isa)

def insert (maps : TableMaps) (given : Row) : Except TableError TableMaps :=
  let row := given.capitalize
  if maps.isa.layout.opcodeMask < row.opcode.toNat then
    .error (.opcodeTooWide row.mnemonic row.opcode maps.isa.layout.opcodeBits)
  else if !maps.isa.spellsOpcode row.opcode then
    .error (.invalidTrit row.mnemonic row.opcode)
  else if (maps.isa.shape? row.format).isNone then
    .error (.unsupportedFormat row.mnemonic row.format maps.isa)
  else
    match maps.mnemonicFor? row.opcode with
    | some other => .error (.duplicateOpcode row.mnemonic other row.opcode)
    | none =>
        if maps.byName.contains row.mnemonic then .error (.duplicateMnemonic row.mnemonic)
        else .ok (maps.put row)

def ofRows (isa : Isa) (rows : List Row) : Except TableError TableMaps :=
  rows.foldlM insert (empty isa)

def ofDocument (isa : Isa) (document : String) : Except TableError TableMaps :=
  match OpcodeTable.rowsOfDocument? document with
  | some rows => ofRows isa rows
  | none => .error .malformedText

/-! ## Listing the rows -/

def rowOfPair (pair : String × Entry) : Row :=
  ⟨pair.1, pair.2.opcode, pair.2.format⟩

def sortedRows (pairs : List (String × Entry)) : List Row :=
  (pairs.map rowOfPair).mergeSort fun row later => row.opcode.toNat ≤ later.opcode.toNat

def rows (maps : TableMaps) : List Row :=
  sortedRows maps.byName.toList

def document (maps : TableMaps) : String :=
  (Json.array (maps.rows.map Row.toJson)).pretty

/-! ## Encoding and decoding -/

def encode (maps : TableMaps) (line : SourceLine) : Except LineError Word :=
  let layout := maps.isa.layout
  match maps.lookup? line.mnemonic with
  | none => .error (.unknownMnemonic line.mnemonic)
  | some entry =>
      match maps.isa.shape? entry.format with
      | none => .error (.unknownMnemonic line.mnemonic)
      | some shape =>
          match Operands.read? layout shape line.operands with
          | none => .error (.operandCount line.mnemonic shape.arity line.operands.length)
          | some outcome => do
              let operands ← outcome
              let operandBits ← operands.bits layout shape
              return UInt32.ofNat (entry.opcode.toNat <<< layout.opcodeShift) ||| operandBits

def decode? (maps : TableMaps) (word : Word) : Option Instruction := do
  let layout := maps.isa.layout
  guard (word.toNat < 2 ^ layout.wordBits)
  let opcode := UInt32.ofNat (word.toNat >>> layout.opcodeShift)
  let mnemonic ← maps.mnemonicFor? opcode
  let entry ← maps.lookup? mnemonic
  let shape ← maps.isa.shape? entry.format
  let operandBits := UInt32.ofNat (word.toNat &&& layout.operandMask)
  guard (operandBits.toNat &&& layout.usedBits shape = operandBits.toNat)
  let operands ← Operands.ofBits? layout operandBits shape
  return ⟨mnemonic, opcode, entry.format, operands⟩

end TableMaps

end TwinIsa
