import TwinIsa.Json.Reader
import TwinIsa.Json.Writer
import TwinIsa.OpcodeTable.Basic

/-!
Opcode tables as JSON documents: an array with a record of mnemonic, opcode and format for each row.
Rows may come in any order; a table is written by ascending opcode.
-/

namespace TwinIsa

namespace Row

def mnemonicName : String := "mnemonic"

def opcodeName : String := "opcode"

def formatName : String := "format"

def toJson (row : Row) : Json :=
  .object [(mnemonicName, .text row.mnemonic), (opcodeName, .natural row.opcode.toNat),
    (formatName, .text row.format.name)]

def ofJson? (record : Json) : Option Row :=
  match record.record? [mnemonicName, opcodeName, formatName] with
  | some [some mnemonic, some opcode, some format] => do
      let mnemonic ← mnemonic.text?
      let opcode ← opcode.naturalUpTo? (Word.count - 1)
      let format ← format.choice?.bind Format.ofName?
      return ⟨mnemonic, UInt32.ofNat opcode, format⟩
  | _ => none

theorem ofJson?_toJson (row : Row) : ofJson? row.toJson = some row := by
  have bound : row.opcode.toNat ≤ Word.count - 1 := by
    have less := row.opcode.toNat_lt
    simp only [Word.count]
    omega
  have fields : row.toJson.record? [mnemonicName, opcodeName, formatName] =
      some [some (.text row.mnemonic), some (.natural row.opcode.toNat),
        some (.text row.format.name)] := rfl
  have opcode : (Json.natural row.opcode.toNat).naturalUpTo? (Word.count - 1) =
      some row.opcode.toNat := if_pos bound
  simp [ofJson?, fields, opcode, Json.text?, Json.choice?]

end Row

namespace OpcodeTable

def toJson (table : OpcodeTable) : Json :=
  .array (table.rows.map Row.toJson)

def document (table : OpcodeTable) : String :=
  table.toJson.pretty

def rowsOfDocument? (document : String) : Option (List Row) := do
  let value ← Json.parse? document
  let items ← value.items?
  items.mapM Row.ofJson?

def ofDocument (isa : Isa) (document : String) : Except TableError OpcodeTable :=
  match rowsOfDocument? document with
  | some rows => ofRows isa rows
  | none => .error .malformedText

end OpcodeTable

end TwinIsa
