import TwinIsa.OpcodeTable.Builtin
import TwinIsa.Proofs.Operands
import TwinIsa.Proofs.Text.Uppercase

/-!
Tables that are made row by row. One lemma says all that putting a row into a table does; what holds
of the table in the end is then an induction on the rows.
-/

namespace TwinIsa.OpcodeTable

theorem eq_of_rows_eq {table other : OpcodeTable} (sameIsa : table.isa = other.isa)
    (sameRows : table.rows = other.rows) : table = other := by
  cases table with
  | mk isa rows admissible ascending distinct =>
      cases other with
      | mk otherIsa otherRows otherAdmissible otherAscending otherDistinct =>
          cases sameIsa
          cases sameRows
          rfl

theorem insert_eq_ok_iff {table larger : OpcodeTable} {row : Row} :
    table.insert row = .ok larger ↔
      table.rejection? row.capitalize = none ∧ larger.isa = table.isa ∧
        larger.rows = insertAscending row.capitalize table.rows := by
  unfold insert
  split
  next rejection rejected => simp [rejected]
  next accepted =>
    rw [Except.ok.injEq]
    constructor
    · rintro rfl
      exact ⟨accepted, rfl, rfl⟩
    · rintro ⟨_, sameIsa, sameRows⟩
      exact eq_of_rows_eq sameIsa.symm sameRows.symm

theorem isCapitalized_of_insert {table larger : OpcodeTable} {row : Row}
    (capitalized : ∀ other ∈ table.rows, Text.IsCapitalized other.mnemonic.toList)
    (inserted : table.insert row = .ok larger) :
    ∀ other ∈ larger.rows, Text.IsCapitalized other.mnemonic.toList := by
  rcases insert_eq_ok_iff.mp inserted with ⟨_, _, rows⟩
  intro other member
  rw [rows, mem_insertAscending] at member
  rcases member with rfl | member
  · rw [Row.capitalize, String.toList_ofList]
    exact Text.isCapitalized_uppercase row.mnemonic.toList
  · exact capitalized other member

theorem isCapitalized_of_foldlM_insert {table larger : OpcodeTable} {rows : List Row}
    (capitalized : ∀ other ∈ table.rows, Text.IsCapitalized other.mnemonic.toList)
    (inserted : rows.foldlM insert table = .ok larger) :
    ∀ other ∈ larger.rows, Text.IsCapitalized other.mnemonic.toList := by
  induction rows generalizing table with
  | nil =>
      cases inserted
      exact capitalized
  | cons row rest induction =>
      rw [List.foldlM_cons, bind_eq_ok_iff] at inserted
      rcases inserted with ⟨next, insertedRow, insertedRest⟩
      exact induction (isCapitalized_of_insert capitalized insertedRow) insertedRest

theorem isCapitalized_of_ofRows {isa : Isa} {rows : List Row} {table : OpcodeTable}
    (made : ofRows isa rows = .ok table) :
    ∀ row ∈ table.rows, Text.IsCapitalized row.mnemonic.toList :=
  isCapitalized_of_foldlM_insert (by simp [empty]) made

end TwinIsa.OpcodeTable

namespace TwinIsa

theorem Isa.isCapitalized_builtin (isa : Isa) :
    ∀ row ∈ isa.builtin.rows, Text.IsCapitalized row.mnemonic.toList := by
  have capitals : ∀ row ∈ isa.builtin.rows,
      Text.uppercase (row.mnemonic.toList.map Char.toLower) = row.mnemonic.toList := by
    cases isa <;> decide +kernel
  intro row member
  rw [← capitals row member]
  exact Text.isCapitalized_uppercase _

end TwinIsa
