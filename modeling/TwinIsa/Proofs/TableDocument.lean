import TwinIsa.OpcodeTable.Document
import TwinIsa.Proofs.Json.ReadBack
import TwinIsa.Proofs.TableConstruction

/-!
Writing a table as a document and reading it again. The rows come back as they are, whatever their
mnemonics are made of. They are capitalized and checked a second time, by ascending opcode: their
mnemonics are capitalized already, and rows of a table are consistent in every order, so they make
the same table.
-/

namespace TwinIsa

theorem Row.wellSpelled_toJson (row : Row) : Json.WellSpelled row.toJson := by
  apply Json.WellSpelled.object
  simp only [List.forall_mem_cons]
  exact ⟨.text _, .integer _, .text _, nofun⟩

theorem Row.capitalize_of_isCapitalized {row : Row}
    (capitalized : Text.IsCapitalized row.mnemonic.toList) : row.capitalize = row := by
  rw [capitalize, capitalized, String.ofList_toList]

namespace OpcodeTable

theorem rowsOfDocument?_document (table : OpcodeTable) :
    rowsOfDocument? table.document = some table.rows := by
  have well : Json.WellSpelled table.toJson := by
    apply Json.WellSpelled.array
    intro item member
    rcases List.mem_map.mp member with ⟨row, _, rfl⟩
    exact row.wellSpelled_toJson
  rw [rowsOfDocument?, document, Json.parse?_pretty well]
  exact mapM_map_of_inverse Row.ofJson?_toJson table.rows

theorem ofRows_rows {table : OpcodeTable}
    (capitalized : ∀ row ∈ table.rows, Text.IsCapitalized row.mnemonic.toList) :
    ofRows table.isa table.rows = .ok table := by
  have unchanged : table.rows.map Row.capitalize = table.rows := by
    have each : ∀ row ∈ table.rows, row.capitalize = row :=
      fun row member => Row.capitalize_of_isCapitalized (capitalized row member)
    exact (List.map_congr_left each).trans (List.map_id' table.rows)
  rw [ofRows_eq_ok_iff, unchanged]
  exact ⟨rfl, List.Perm.refl _⟩

/-- A table that a machine comes with, or that is made from rows, is the table of its own document,
which lists its rows by ascending opcode. So the table that is read agrees with the one that was
written in every row that is looked up, and in every line and word. -/
theorem ofDocument_document {isa : Isa} {table : OpcodeTable}
    (given : table = isa.builtin ∨ ∃ rows, ofRows isa rows = .ok table) :
    rowsOfDocument? table.document = some table.rows ∧
      ofDocument isa table.document = .ok table := by
  have sameIsa : table.isa = isa := by
    rcases given with rfl | ⟨rows, made⟩
    · rfl
    · exact (ofRows_eq_ok_iff.mp made).1
  have capitalized : ∀ row ∈ table.rows, Text.IsCapitalized row.mnemonic.toList := by
    rcases given with rfl | ⟨rows, made⟩
    · exact isa.isCapitalized_builtin
    · exact isCapitalized_of_ofRows made
  refine ⟨table.rowsOfDocument?_document, ?_⟩
  rw [ofDocument, table.rowsOfDocument?_document, ← sameIsa]
  exact ofRows_rows capitalized

/-- The table of rows whose mnemonics are a quotation mark with a control character, nothing at all,
and a letter that takes two capitals with a backslash. -/
theorem ofDocument_document_escapes :
    ∃ table, ofRows .ternary [⟨"\"\x01", 0b110101, .memoryOffset⟩, ⟨"", 0b010100, .noOperand⟩,
        ⟨"ß\\", 0, .registerPair⟩] = .ok table ∧
      table.rows.map (·.mnemonic) = ["SS\\", "", "\"\x01"] ∧
      ofDocument .ternary table.document = .ok table := by
  have checked : ∃ table ∈ (ofRows .ternary [⟨"\"\x01", 0b110101, .memoryOffset⟩,
      ⟨"", 0b010100, .noOperand⟩, ⟨"ß\\", 0, .registerPair⟩]).toOption,
      table.rows.map (·.mnemonic) = ["SS\\", "", "\"\x01"] := by
    decide +kernel
  rcases checked with ⟨table, found, mnemonics⟩
  have made := toOption_eq_some_iff.mp found
  exact ⟨table, made, mnemonics, (ofDocument_document (.inr ⟨_, made⟩)).2⟩

end OpcodeTable

end TwinIsa
