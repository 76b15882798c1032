import TwinIsa.OpcodeTable.Maps
import TwinIsa.Proofs.TableDocument

/-!
The maps of a table against its rows. Maps reflect a table if they have for each key what its row
has. Putting a row into both keeps that, or refuses the row with the same error; so the maps that
are made from rows reflect the table of the rows, and lines and words are encoded and decoded by
them as by the table.
-/

namespace TwinIsa

/-! ## Rows found in a larger table -/

namespace OpcodeTable

variable {table larger : OpcodeTable} {row : Row}

theorem row?_of_perm_cons (perm : larger.rows.Perm (row :: table.rows)) (mnemonic : String) :
    larger.row? mnemonic = if row.mnemonic = mnemonic then some row else table.row? mnemonic :=
  List.find?_key_of_perm_cons Row.mnemonic larger.distinct perm mnemonic

theorem rowOfOpcode?_of_perm_cons (perm : larger.rows.Perm (row :: table.rows)) (opcode : Word) :
    larger.rowOfOpcode? opcode =
      if row.opcode = opcode then some row else table.rowOfOpcode? opcode :=
  List.find?_key_of_perm_cons Row.opcode larger.consistent.opcodes perm opcode

end OpcodeTable

namespace TableMaps

structure Reflects (maps : TableMaps) (table : OpcodeTable) : Prop where
  isa : maps.isa = table.isa
  lookup? : ∀ mnemonic, maps.lookup? mnemonic = (table.row? mnemonic).map Row.entry
  mnemonicFor? : ∀ opcode, maps.mnemonicFor? opcode = (table.rowOfOpcode? opcode).map Row.mnemonic

variable {maps : TableMaps} {table larger : OpcodeTable}

theorem reflects_empty (isa : Isa) : (empty isa).Reflects (.empty isa) where
  isa := rfl
  lookup? mnemonic := by simp [TableMaps.lookup?, empty, OpcodeTable.empty, OpcodeTable.row?]
  mnemonicFor? opcode := by
    simp [TableMaps.mnemonicFor?, empty, OpcodeTable.empty, OpcodeTable.rowOfOpcode?]

theorem reflects_put {row : Row} (reflects : maps.Reflects table) (sameIsa : larger.isa = table.isa)
    (perm : larger.rows.Perm (row :: table.rows)) : (maps.put row).Reflects larger where
  isa := reflects.isa.trans sameIsa.symm
  lookup? mnemonic := by
    have before := reflects.lookup? mnemonic
    rw [OpcodeTable.row?_of_perm_cons perm]
    rw [TableMaps.lookup?] at before ⊢
    rw [put, Std.HashMap.getElem?_insert, before]
    by_cases same : row.mnemonic = mnemonic <;> simp [same]
  mnemonicFor? opcode := by
    have before := reflects.mnemonicFor? opcode
    rw [OpcodeTable.rowOfOpcode?_of_perm_cons perm]
    rw [TableMaps.mnemonicFor?] at before ⊢
    rw [put, Std.HashMap.getElem?_insert, before]
    by_cases same : row.opcode = opcode <;> simp [same]

/-! ## Filling the maps -/

inductive Agree : Except TableError TableMaps → Except TableError OpcodeTable → Prop
  | refused (error : TableError) : Agree (.error error) (.error error)
  | accepted {maps : TableMaps} {table : OpcodeTable} (reflects : maps.Reflects table) :
      Agree (.ok maps) (.ok table)

theorem insert_eq (reflects : maps.Reflects table) (row : Row) :
    maps.insert row =
      match table.rejection? row.capitalize with
      | some error => .error error
      | none => .ok (maps.put row.capitalize) := by
  have known : maps.byName.contains row.capitalize.mnemonic =
      (table.row? row.capitalize.mnemonic).isSome := by
    have entry := reflects.lookup? row.capitalize.mnemonic
    rw [lookup?] at entry
    rw [Std.HashMap.contains_eq_isSome_getElem?, entry, Option.isSome_map]
  unfold insert OpcodeTable.rejection?
  dsimp only
  rw [reflects.isa, reflects.mnemonicFor?, known]
  cases table.rowOfOpcode? row.capitalize.opcode <;>
    cases table.row? row.capitalize.mnemonic <;> grind

theorem insert_agree (reflects : maps.Reflects table) (row : Row) :
    Agree (maps.insert row) (table.insert row) := by
  rw [insert_eq reflects]
  cases rejected : table.rejection? row.capitalize with
  | some error =>
      rw [OpcodeTable.insert_eq_error_iff.mpr rejected]
      exact .refused error
  | none =>
      rcases OpcodeTable.exists_insert_iff.mpr (OpcodeTable.rejection?_eq_none_iff.mp rejected) with
        ⟨larger, inserted⟩
      rcases OpcodeTable.insert_perm inserted with ⟨sameIsa, perm⟩
      rw [inserted]
      exact .accepted (reflects_put reflects sameIsa perm)

theorem foldlM_insert_agree (reflects : maps.Reflects table) (rows : List Row) :
    Agree (rows.foldlM insert maps) (rows.foldlM OpcodeTable.insert table) := by
  induction rows generalizing maps table with
  | nil => exact .accepted reflects
  | cons row rest induction =>
      have step := insert_agree reflects row
      rw [List.foldlM_cons, List.foldlM_cons]
      generalize maps.insert row = inserted, table.insert row = insertedRow at step
      cases step with
      | refused error => exact .refused error
      | accepted reflects => exact induction reflects

theorem ofRows_agree (isa : Isa) (rows : List Row) :
    Agree (ofRows isa rows) (OpcodeTable.ofRows isa rows) :=
  foldlM_insert_agree (reflects_empty isa) rows

theorem ofDocument_agree (isa : Isa) (document : String) :
    Agree (ofDocument isa document) (OpcodeTable.ofDocument isa document) := by
  rw [ofDocument, OpcodeTable.ofDocument]
  cases OpcodeTable.rowsOfDocument? document with
  | none => exact .refused .malformedText
  | some rows => exact ofRows_agree isa rows

/-! ## Built-in tables -/

theorem insert_eq_ok {more : TableMaps} {row : Row} (inserted : maps.insert row = .ok more) :
    more = maps.put row.capitalize := by
  unfold insert at inserted
  dsimp only at inserted
  repeat' split at inserted
  all_goals cases inserted
  rfl

theorem foldl_put_eq_of_foldlM_insert {more : TableMaps} {rows : List Row}
    (capitalized : ∀ row ∈ rows, row.capitalize = row)
    (inserted : rows.foldlM insert maps = .ok more) : more = rows.foldl put maps := by
  induction rows generalizing maps with
  | nil =>
      cases inserted
      rfl
  | cons row rest induction =>
      rw [List.forall_mem_cons] at capitalized
      rw [List.foldlM_cons, bind_eq_ok_iff] at inserted
      rcases inserted with ⟨next, insertedRow, insertedRest⟩
      have stepped := insert_eq_ok insertedRow
      rw [capitalized.1] at stepped
      subst stepped
      exact induction capitalized.2 insertedRest

theorem ofRows_builtin (isa : Isa) :
    ofRows isa isa.rows = .ok (builtin isa) ∧ (builtin isa).Reflects isa.builtin := by
  have agree := ofRows_agree isa isa.rows
  have accepted : OpcodeTable.ofRows isa isa.rows = .ok isa.builtin :=
    OpcodeTable.ofRows_rows isa.isCapitalized_builtin
  rw [accepted] at agree
  cases filled : ofRows isa isa.rows with
  | error error =>
      rw [filled] at agree
      cases agree
  | ok maps =>
      rw [filled] at agree
      cases agree with
      | accepted reflects =>
          have same : maps = builtin isa := foldl_put_eq_of_foldlM_insert
            (fun row member => Row.capitalize_of_isCapitalized (isa.isCapitalized_builtin row member))
            filled
          subst same
          exact ⟨rfl, reflects⟩

/-! ## Listing the rows -/

theorem map_toList_perm (reflects : maps.Reflects table) :
    (maps.byName.toList.map rowOfPair).Perm table.rows := by
  have differ : table.rows.Nodup := table.distinct.imp (mt (congrArg Row.mnemonic))
  refine (List.perm_ext_iff_of_nodup ?_ differ).mpr fun row => ⟨?_, ?_⟩
  · apply List.pairwise_map.mpr
    apply Std.HashMap.distinct_keys_toList.imp
    intro pair later different same
    exact absurd (congrArg Row.mnemonic same) (ne_of_beq_false different)
  · intro listed
    rcases List.mem_map.mp listed with ⟨⟨mnemonic, entry⟩, member, rfl⟩
    have found := (reflects.lookup? mnemonic).symm.trans
      (Std.HashMap.mem_toList_iff_getElem?_eq_some.mp member)
    rcases Option.map_eq_some_iff.mp found with ⟨row, inTable, rfl⟩
    rcases OpcodeTable.row?_eq_some_iff.mp inTable with ⟨inRows, rfl⟩
    exact inRows
  · intro member
    have found := reflects.lookup? row.mnemonic
    rw [OpcodeTable.row?_eq_some_iff.mpr ⟨member, rfl⟩] at found
    exact List.mem_map.mpr ⟨(row.mnemonic, row.entry),
      Std.HashMap.mem_toList_iff_getElem?_eq_some.mpr found, rfl⟩

theorem sortedRows_eq (reflects : maps.Reflects table) {pairs : List (String × Entry)}
    (perm : pairs.Perm maps.byName.toList) : sortedRows pairs = table.rows :=
  OpcodeTable.mergeSort_eq_rows ((perm.map _).trans (map_toList_perm reflects))

theorem rows_eq (reflects : maps.Reflects table) : maps.rows = table.rows :=
  sortedRows_eq reflects (List.Perm.refl _)

theorem document_eq (reflects : maps.Reflects table) : maps.document = table.document := by
  rw [document, rows_eq reflects]
  rfl

theorem size_eq (reflects : maps.Reflects table) : maps.size = table.rows.length := by
  rw [← (map_toList_perm reflects).length_eq, List.length_map, Std.HashMap.length_toList, size]

theorem isEmpty_eq (reflects : maps.Reflects table) : maps.isEmpty = table.rows.isEmpty := by
  rw [← (map_toList_perm reflects).isEmpty_eq, List.isEmpty_map, Std.HashMap.isEmpty_toList,
    isEmpty]

/-! ## Encoding and decoding -/

theorem encode_eq (reflects : maps.Reflects table) (line : SourceLine) :
    maps.encode line = line.encode table := by
  rw [encode, SourceLine.encode, reflects.lookup?, reflects.isa, OpcodeTable.rowAndShape?]
  cases found : table.row? line.mnemonic with
  | none => rfl
  | some row =>
      simp only [Option.map_some, Option.bind_eq_bind, Option.bind_some, Row.entry]
      cases table.isa.shape? row.format with
      | none => rfl
      | some shape => rfl

theorem decode?_eq (reflects : maps.Reflects table) (word : Word) :
    maps.decode? word = Instruction.ofWord? table word := by
  rw [decode?, Instruction.ofWord?, reflects.isa]
  dsimp only
  rw [reflects.mnemonicFor?]
  cases found : table.rowOfOpcode? (UInt32.ofNat (word.toNat >>> table.isa.layout.opcodeShift)) with
  | none => rfl
  | some row =>
      rcases OpcodeTable.rowOfOpcode?_eq_some_iff.mp found with ⟨member, same⟩
      have again := reflects.lookup? row.mnemonic
      rw [OpcodeTable.row?_eq_some_iff.mpr ⟨member, rfl⟩] at again
      simp [again, Row.entry, same]

/-- Rows are refused as maps just as they are as a table; where they are accepted, the maps list the
rows of the table, in whatever order they are come by, and encode and decode as the table does. -/
theorem ofRows_answers (isa : Isa) (rows : List Row) :
    (∀ error, ofRows isa rows = .error error ↔ OpcodeTable.ofRows isa rows = .error error) ∧
    ∀ table, OpcodeTable.ofRows isa rows = .ok table → ∃ maps, ofRows isa rows = .ok maps ∧
      (∀ pairs : List (String × Entry), pairs.Perm maps.byName.toList →
        sortedRows pairs = table.rows) ∧
      (∀ line, maps.encode line = line.encode table) ∧
      ∀ word, maps.decode? word = Instruction.ofWord? table word := by
  have agree := ofRows_agree isa rows
  generalize ofRows isa rows = filled, OpcodeTable.ofRows isa rows = made at agree
  cases agree with
  | refused error => exact ⟨fun _ => by simp only [Except.error.injEq], nofun⟩
  | accepted reflects =>
      refine ⟨fun _ => iff_of_false nofun nofun, ?_⟩
      intro table same
      cases same
      exact ⟨_, rfl, fun _ => sortedRows_eq reflects, encode_eq reflects, decode?_eq reflects⟩

end TableMaps

end TwinIsa
