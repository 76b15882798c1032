import TwinIsa.Proofs.AcceptedTables
import TwinIsa.Proofs.BalancedTernary
import TwinIsa.Proofs.Steps
import TwinIsa.Proofs.TableLookup

/-!
Which rows make a table, and which table they make. A list of rows is consistent if its rows could
stand in one table, whatever their order; a row goes into a table if and only if it is consistent
with the rows that are there. So rows are accepted if and only if they are consistent, their table
is the only one that has just these rows, and the first row that is refused is at fault with those
before it.
-/

namespace TwinIsa

/-! ## Opcodes and formats -/

def Isa.Spells (isa : Isa) (opcode : Word) : Prop :=
  isa = .ternary → ∀ position : Nat, position < 3 → opcode.toNat / 4 ^ position % 4 ≠ 0b10

theorem Isa.spellsOpcode_iff {isa : Isa} {opcode : Word} :
    isa.spellsOpcode opcode = true ↔ isa.Spells opcode := by
  cases isa with
  | binary => simp [spellsOpcode, Spells]
  | ternary => simp [spellsOpcode, Spells, layout, BalancedTernary.isSome_unpack?_iff]

theorem Row.admissible_iff {isa : Isa} {row : Row} :
    row.Admissible isa ↔ row.opcode.toNat ≤ isa.layout.opcodeMask ∧ isa.Spells row.opcode ∧
      (isa.shape? row.format).isSome = true := by
  rw [← Isa.spellsOpcode_iff]
  exact ⟨fun holds => ⟨holds.opcode_le, holds.spells, holds.available⟩,
    fun holds => ⟨holds.1, holds.2.1, holds.2.2⟩⟩

namespace OpcodeTable

/-! ## Consistent rows -/

structure Consistent (isa : Isa) (rows : List Row) : Prop where
  admissible : ∀ row ∈ rows, row.Admissible isa
  opcodes : rows.Pairwise fun row later => row.opcode ≠ later.opcode
  mnemonics : rows.Pairwise fun row later => row.mnemonic ≠ later.mnemonic

theorem consistent (table : OpcodeTable) : Consistent table.isa table.rows where
  admissible := table.admissible
  opcodes := table.ascending.imp fun less equal =>
    Nat.ne_of_lt less (congrArg UInt32.toNat equal)
  mnemonics := table.distinct

theorem Consistent.perm {isa : Isa} {rows others : List Row} (perm : rows.Perm others)
    (holds : Consistent isa rows) : Consistent isa others where
  admissible row member := holds.admissible row (perm.mem_iff.mpr member)
  opcodes := (perm.pairwise_iff Ne.symm).mp holds.opcodes
  mnemonics := (perm.pairwise_iff Ne.symm).mp holds.mnemonics

theorem Consistent.sublist {isa : Isa} {rows others : List Row} (sublist : rows.Sublist others)
    (holds : Consistent isa others) : Consistent isa rows where
  admissible row member := holds.admissible row (sublist.mem member)
  opcodes := holds.opcodes.sublist sublist
  mnemonics := holds.mnemonics.sublist sublist

theorem consistent_cons_iff {isa : Isa} {row : Row} {rows : List Row} :
    Consistent isa (row :: rows) ↔
      (row.Admissible isa ∧ (∀ other ∈ rows, other.opcode ≠ row.opcode) ∧
        ∀ other ∈ rows, other.mnemonic ≠ row.mnemonic) ∧ Consistent isa rows := by
  constructor
  · intro holds
    rcases holds with ⟨admissible, opcodes, mnemonics⟩
    rw [List.forall_mem_cons] at admissible
    rw [List.pairwise_cons] at opcodes mnemonics
    exact ⟨⟨admissible.1, fun other member => (opcodes.1 other member).symm,
      fun other member => (mnemonics.1 other member).symm⟩,
      admissible.2, opcodes.2, mnemonics.2⟩
  · intro accepted
    rcases accepted with ⟨⟨admissible, newOpcode, newMnemonic⟩, holds⟩
    exact ⟨List.forall_mem_cons.mpr ⟨admissible, holds.admissible⟩,
      List.pairwise_cons.mpr ⟨fun other member => (newOpcode other member).symm, holds.opcodes⟩,
      List.pairwise_cons.mpr
        ⟨fun other member => (newMnemonic other member).symm, holds.mnemonics⟩⟩

/-! ## One row more -/

variable {table larger : OpcodeTable} {row : Row} {rows : List Row}

theorem insertAscending_perm (row : Row) (rows : List Row) :
    (insertAscending row rows).Perm (row :: rows) := by
  induction rows with
  | nil => exact List.Perm.refl _
  | cons head rest induction =>
      rw [insertAscending]
      split
      · exact List.Perm.refl _
      · exact (induction.cons head).trans (List.Perm.swap row head rest)

theorem rejection?_eq_none_iff :
    table.rejection? row = none ↔ Consistent table.isa (row :: table.rows) := by
  rw [consistent_cons_iff]
  constructor
  · intro accepted
    exact ⟨rejection?_eq_none accepted, table.consistent⟩
  · intro holds
    rcases holds with ⟨⟨admissible, newOpcode, newMnemonic⟩, _⟩
    have fits : ¬table.isa.layout.opcodeMask < row.opcode.toNat := by
      have le := admissible.opcode_le
      omega
    have noOpcode : table.rowOfOpcode? row.opcode = none := by
      simpa [rowOfOpcode?] using newOpcode
    have noMnemonic : table.row? row.mnemonic = none := by
      simpa [row?] using newMnemonic
    have available := Option.isSome_iff_ne_none.mp admissible.available
    simp [rejection?, fits, admissible.spells, available, noOpcode, noMnemonic]

theorem insert_eq_error_iff {error : TableError} :
    table.insert row = .error error ↔ table.rejection? row.capitalize = some error := by
  unfold insert
  split
  next rejection rejected => simp [rejected]
  next accepted => simp [accepted]

theorem insert_perm (inserted : table.insert row = .ok larger) :
    larger.isa = table.isa ∧ larger.rows.Perm (row.capitalize :: table.rows) := by
  rcases insert_eq_ok_iff.mp inserted with ⟨_, sameIsa, sorted⟩
  refine ⟨sameIsa, ?_⟩
  rw [sorted]
  exact insertAscending_perm _ _

theorem exists_insert_iff :
    (∃ larger, table.insert row = .ok larger) ↔
      Consistent table.isa (row.capitalize :: table.rows) := by
  rw [← rejection?_eq_none_iff]
  constructor
  · intro inserts
    rcases inserts with ⟨larger, inserted⟩
    exact (insert_eq_ok_iff.mp inserted).1
  · intro accepted
    cases inserted : table.insert row with
    | error rejection =>
        rw [insert_eq_error_iff, accepted] at inserted
        contradiction
    | ok larger => exact ⟨larger, rfl⟩

/-! ## All rows -/

theorem foldlM_insert_perm (inserted : rows.foldlM insert table = .ok larger) :
    larger.isa = table.isa ∧ larger.rows.Perm (rows.map Row.capitalize ++ table.rows) := by
  induction rows generalizing table with
  | nil =>
      cases inserted
      exact ⟨rfl, List.Perm.refl _⟩
  | cons row rest induction =>
      rw [List.foldlM_cons, bind_eq_ok_iff] at inserted
      rcases inserted with ⟨next, insertedRow, insertedRest⟩
      rcases insert_perm insertedRow with ⟨nextIsa, nextRows⟩
      rcases induction insertedRest with ⟨sameIsa, sameRows⟩
      refine ⟨sameIsa.trans nextIsa, sameRows.trans ?_⟩
      exact (nextRows.append_left _).trans List.perm_middle

theorem exists_foldlM_insert_iff :
    (∃ larger, rows.foldlM insert table = .ok larger) ↔
      Consistent table.isa (rows.map Row.capitalize ++ table.rows) := by
  induction rows generalizing table with
  | nil => exact ⟨fun _ => table.consistent, fun _ => ⟨table, rfl⟩⟩
  | cons row rest induction =>
      rw [List.foldlM_cons, List.map_cons, List.cons_append]
      constructor
      · intro inserts
        rcases inserts with ⟨larger, inserted⟩
        rw [bind_eq_ok_iff] at inserted
        rcases inserted with ⟨next, insertedRow, insertedRest⟩
        rcases insert_perm insertedRow with ⟨nextIsa, nextRows⟩
        have holds := induction.mp ⟨larger, insertedRest⟩
        rw [nextIsa] at holds
        exact holds.perm ((nextRows.append_left _).trans List.perm_middle)
      · intro holds
        have fresh : Consistent table.isa (row.capitalize :: table.rows) :=
          holds.sublist ((List.sublist_append_right _ _).cons_cons _)
        rcases exists_insert_iff.mpr fresh with ⟨next, insertedRow⟩
        rcases insert_perm insertedRow with ⟨nextIsa, nextRows⟩
        rw [insertedRow]
        apply induction.mpr
        rw [nextIsa]
        exact holds.perm ((nextRows.append_left _).trans List.perm_middle).symm

/-! ## The table of rows -/

section

variable {isa : Isa}

theorem eq_of_opcode_eq {other : Row} (member : row ∈ table.rows)
    (otherMember : other ∈ table.rows) (same : row.opcode = other.opcode) : row = other := by
  have found := rowOfOpcode?_eq_some_iff.mpr ⟨member, same⟩
  rw [rowOfOpcode?_eq_some_iff.mpr ⟨otherMember, rfl⟩] at found
  exact (Option.some.inj found).symm

theorem eq_rows_of_perm (perm : rows.Perm table.rows)
    (sorted : rows.Pairwise fun row later => row.opcode.toNat ≤ later.opcode.toNat) :
    rows = table.rows := by
  apply List.Perm.eq_of_pairwise _ sorted (table.ascending.imp Nat.le_of_lt) perm
  intro row other member otherMember le ge
  exact eq_of_opcode_eq (perm.mem_iff.mp member) otherMember
    (UInt32.toNat_inj.mp (Nat.le_antisymm le ge))

/-- In whatever order rows are come by, sorting them gives the rows as their table keeps them. -/
theorem mergeSort_eq_rows (perm : rows.Perm table.rows) :
    rows.mergeSort (fun row later => decide (row.opcode.toNat ≤ later.opcode.toNat)) =
      table.rows := by
  apply eq_rows_of_perm ((List.mergeSort_perm rows _).trans perm)
  apply (List.pairwise_mergeSort _ _ rows).imp of_decide_eq_true
  · intro first second third
    simp only [decide_eq_true_eq]
    exact Nat.le_trans
  · intro first second
    simp only [Bool.or_eq_true, decide_eq_true_eq]
    exact Nat.le_total _ _

theorem exists_ofRows_iff :
    (∃ table, ofRows isa rows = .ok table) ↔ Consistent isa (rows.map Row.capitalize) := by
  have accepted : (∃ table, ofRows isa rows = .ok table) ↔
      Consistent isa (rows.map Row.capitalize ++ []) := exists_foldlM_insert_iff
  rwa [List.append_nil] at accepted

/-- The table of rows is the only one that has just these rows, in whatever order they are given. -/
theorem ofRows_eq_ok_iff :
    ofRows isa rows = .ok table ↔
      table.isa = isa ∧ table.rows.Perm (rows.map Row.capitalize) := by
  have kept {made : OpcodeTable} (accepted : ofRows isa rows = .ok made) :
      made.isa = isa ∧ made.rows.Perm (rows.map Row.capitalize) := by
    rcases foldlM_insert_perm accepted with ⟨sameIsa, perm⟩
    exact ⟨sameIsa, by simpa [empty] using perm⟩
  constructor
  · exact kept
  · intro same
    rcases same with ⟨rfl, perm⟩
    rcases exists_ofRows_iff.mpr (table.consistent.perm perm) with ⟨made, accepted⟩
    rcases kept accepted with ⟨sameIsa, madePerm⟩
    have sameRows : made.rows = table.rows :=
      eq_rows_of_perm (madePerm.trans perm.symm) (made.ascending.imp Nat.le_of_lt)
    rw [accepted, eq_of_rows_eq sameIsa sameRows]

theorem exists_ofRows_of_sublist {others : List Row} (sublist : rows.Sublist others)
    (accepted : ∃ table, ofRows isa others = .ok table) : ∃ table, ofRows isa rows = .ok table :=
  exists_ofRows_iff.mpr
    ((exists_ofRows_iff.mp accepted).sublist (sublist.map Row.capitalize))

theorem exists_given_of_mem (accepted : ofRows isa rows = .ok table) :
    row ∈ table.rows ↔ ∃ given ∈ rows, given.capitalize = row := by
  rw [(ofRows_eq_ok_iff.mp accepted).2.mem_iff, List.mem_map]

end

/-! ## Rows at fault -/

end OpcodeTable

/-- What is wrong with a row after other rows. Each fault but the first is one of a row without the
faults before it. -/
inductive Row.Fault (isa : Isa) (earlier : List Row) (row : Row) : TableError → Prop
  | opcodeTooWide (wide : isa.layout.opcodeMask < row.opcode.toNat) :
      Fault isa earlier row
        (.opcodeTooWide row.capitalize.mnemonic row.opcode isa.layout.opcodeBits)
  | invalidTrit (fits : row.opcode.toNat ≤ isa.layout.opcodeMask)
      (misspelled : ¬isa.Spells row.opcode) :
      Fault isa earlier row (.invalidTrit row.capitalize.mnemonic row.opcode)
  | unsupportedFormat (fits : row.opcode.toNat ≤ isa.layout.opcodeMask)
      (spelled : isa.Spells row.opcode) (missing : isa.shape? row.format = none) :
      Fault isa earlier row (.unsupportedFormat row.capitalize.mnemonic row.format isa)
  | duplicateOpcode {other : Row} (admissible : row.Admissible isa) (member : other ∈ earlier)
      (same : other.opcode = row.opcode) :
      Fault isa earlier row
        (.duplicateOpcode row.capitalize.mnemonic other.capitalize.mnemonic row.opcode)
  | duplicateMnemonic {other : Row} (admissible : row.Admissible isa)
      (newOpcode : ∀ other ∈ earlier, other.opcode ≠ row.opcode) (member : other ∈ earlier)
      (same : other.capitalize.mnemonic = row.capitalize.mnemonic) :
      Fault isa earlier row (.duplicateMnemonic row.capitalize.mnemonic)

namespace OpcodeTable

theorem rejection?_eq_some_iff {isa : Isa} {earlier : List Row} {table : OpcodeTable} {row : Row}
    {error : TableError} (accepted : ofRows isa earlier = .ok table) :
    table.rejection? row.capitalize = some error ↔ row.Fault isa earlier error := by
  have given {other : Row} : other ∈ table.rows ↔ ∃ given ∈ earlier, given.capitalize = other :=
    exists_given_of_mem accepted
  have sameIsa := (ofRows_eq_ok_iff.mp accepted).1
  constructor
  · intro rejected
    unfold rejection? at rejected
    rw [sameIsa] at rejected
    split at rejected
    next wide =>
      cases rejected
      exact .opcodeTooWide wide
    next fits =>
      have le := Nat.not_lt.mp fits
      split at rejected
      next misspelled =>
        cases rejected
        exact .invalidTrit le (by simpa [← Isa.spellsOpcode_iff] using misspelled)
      next spelled =>
        have spells : isa.Spells row.opcode := by simpa [← Isa.spellsOpcode_iff] using spelled
        split at rejected
        next missing =>
          cases rejected
          exact .unsupportedFormat le spells (by simpa using missing)
        next available =>
          have admissible : row.Admissible isa :=
            Row.admissible_iff.mpr ⟨le, spells,
              by simpa [Option.isSome_iff_ne_none] using available⟩
          split at rejected
          next other foundOpcode =>
            cases rejected
            rcases rowOfOpcode?_eq_some_iff.mp foundOpcode with ⟨member, same⟩
            rcases given.mp member with ⟨otherGiven, inEarlier, rfl⟩
            exact .duplicateOpcode admissible inEarlier same
          next noOpcode =>
            split at rejected
            next other foundMnemonic =>
              cases rejected
              rcases row?_eq_some_iff.mp foundMnemonic with ⟨member, same⟩
              rcases given.mp member with ⟨otherGiven, inEarlier, rfl⟩
              refine .duplicateMnemonic admissible ?_ inEarlier same
              intro other inEarlier
              have notFound := List.find?_eq_none.mp noOpcode _ (given.mpr ⟨other, inEarlier, rfl⟩)
              simpa using notFound
            next => contradiction
  · intro fault
    rw [rejection?, sameIsa]
    cases fault with
    | opcodeTooWide wide => exact if_pos wide
    | invalidTrit fits misspelled =>
        rw [← Isa.spellsOpcode_iff, Bool.not_eq_true] at misspelled
        simp [Nat.not_lt.mpr fits, misspelled]
    | unsupportedFormat fits spelled missing =>
        rw [← Isa.spellsOpcode_iff] at spelled
        simp [Nat.not_lt.mpr fits, spelled, missing]
    | duplicateOpcode admissible member same =>
        have found : table.rowOfOpcode? row.opcode = some _ :=
          rowOfOpcode?_eq_some_iff.mpr ⟨given.mpr ⟨_, member, rfl⟩, same⟩
        have available := Option.isSome_iff_ne_none.mp admissible.available
        simp [Nat.not_lt.mpr admissible.opcode_le, admissible.spells, available, found]
    | duplicateMnemonic admissible newOpcode member same =>
        have noOpcode : table.rowOfOpcode? row.opcode = none := by
          apply List.find?_eq_none.mpr
          intro other inRows
          rcases given.mp inRows with ⟨otherGiven, inEarlier, rfl⟩
          simpa using newOpcode otherGiven inEarlier
        have found : table.row? row.capitalize.mnemonic = some _ :=
          row?_eq_some_iff.mpr ⟨given.mpr ⟨_, member, rfl⟩, same⟩
        have available := Option.isSome_iff_ne_none.mp admissible.available
        simp [Nat.not_lt.mpr admissible.opcode_le, admissible.spells, available, noOpcode, found]

theorem ofRows_eq_error_iff {isa : Isa} {rows : List Row} {error : TableError} :
    ofRows isa rows = .error error ↔
      ∃ index row, rows[index]? = some row ∧
        (∃ table, ofRows isa (rows.take index) = .ok table) ∧
        row.Fault isa (rows.take index) error := by
  rw [ofRows, foldlM_eq_error_iff]
  constructor
  · intro refuses
    rcases refuses with ⟨index, row, table, found, accepted, refused⟩
    rw [insert_eq_error_iff, rejection?_eq_some_iff accepted] at refused
    exact ⟨index, row, found, ⟨table, accepted⟩, refused⟩
  · intro faulty
    rcases faulty with ⟨index, row, found, ⟨table, accepted⟩, fault⟩
    rw [← rejection?_eq_some_iff accepted, ← insert_eq_error_iff] at fault
    exact ⟨index, row, table, found, accepted, fault⟩

theorem consistent_map_capitalize_iff {isa : Isa} {rows : List Row} :
    Consistent isa (rows.map Row.capitalize) ↔
      (∀ row ∈ rows, row.opcode.toNat ≤ isa.layout.opcodeMask ∧ isa.Spells row.opcode ∧
        (isa.shape? row.format).isSome = true) ∧
      rows.Pairwise (fun row later => row.opcode ≠ later.opcode) ∧
      rows.Pairwise fun row later => row.capitalize.mnemonic ≠ later.capitalize.mnemonic := by
  have admissible : (∀ row ∈ rows.map Row.capitalize, row.Admissible isa) ↔
      ∀ row ∈ rows, row.opcode.toNat ≤ isa.layout.opcodeMask ∧ isa.Spells row.opcode ∧
        (isa.shape? row.format).isSome = true := by
    simp only [List.forall_mem_map, Row.admissible_iff, Row.capitalize_opcode,
      Row.capitalize_format]
  rw [← admissible]
  constructor
  · intro holds
    rcases holds with ⟨each, opcodes, mnemonics⟩
    rw [List.pairwise_map] at opcodes mnemonics
    exact ⟨each, opcodes, mnemonics⟩
  · intro holds
    rcases holds with ⟨each, opcodes, mnemonics⟩
    refine ⟨each, ?_, ?_⟩
    · rwa [List.pairwise_map]
    · rwa [List.pairwise_map]

theorem row?_of_ofRows {isa : Isa} {rows : List Row} {table : OpcodeTable}
    (accepted : ofRows isa rows = .ok table) {mnemonic : String} {opcode : Word}
    {format : Format} :
    table.row? mnemonic = some ⟨mnemonic, opcode, format⟩ ↔
      ∃ given ∈ rows, String.ofList (Text.uppercase given.mnemonic.toList) = mnemonic ∧
        given.opcode = opcode ∧ given.format = format := by
  rw [row?_eq_some_iff, exists_given_of_mem accepted, and_iff_left rfl]
  simp only [Row.capitalize, Row.mk.injEq]

theorem rowOfOpcode?_iff_row? {table : OpcodeTable} {opcode : Word} {mnemonic : String} :
    (table.rowOfOpcode? opcode).map Row.mnemonic = some mnemonic ↔
      (table.row? mnemonic).map Row.opcode = some opcode := by
  simp only [Option.map_eq_some_iff, row?_eq_some_iff, rowOfOpcode?_eq_some_iff]
  constructor
  · intro found
    rcases found with ⟨row, ⟨member, opcode⟩, mnemonic⟩
    exact ⟨row, ⟨member, mnemonic⟩, opcode⟩
  · intro found
    rcases found with ⟨row, ⟨member, mnemonic⟩, opcode⟩
    exact ⟨row, ⟨member, opcode⟩, mnemonic⟩

/-- Rows are accepted if and only if each may be in a table and no two share an opcode or, once
capitalized, a mnemonic. The table then finds just these rows by either key and lists them by
opcode, in whatever order they are come by; rows in another order have the same table. Rows that
are not accepted are refused for the first of them that cannot follow those before it. -/
theorem ofRows_exact (isa : Isa) (rows : List Row) :
    ((∃ table, ofRows isa rows = .ok table) ↔
      (∀ row ∈ rows, row.opcode.toNat ≤ isa.layout.opcodeMask ∧
        (isa = .ternary → ∀ position : Nat, position < 3 →
          row.opcode.toNat / 4 ^ position % 4 ≠ 0b10) ∧
        (isa.shape? row.format).isSome = true) ∧
      rows.Pairwise (fun row later => row.opcode ≠ later.opcode) ∧
      rows.Pairwise fun row later => row.capitalize.mnemonic ≠ later.capitalize.mnemonic) ∧
    (∀ table, ofRows isa rows = .ok table →
      (∀ mnemonic opcode format, table.row? mnemonic = some ⟨mnemonic, opcode, format⟩ ↔
        ∃ given ∈ rows, String.ofList (Text.uppercase given.mnemonic.toList) = mnemonic ∧
          given.opcode = opcode ∧ given.format = format) ∧
      (∀ opcode mnemonic, (table.rowOfOpcode? opcode).map Row.mnemonic = some mnemonic ↔
        (table.row? mnemonic).map Row.opcode = some opcode) ∧
      table.rows.length = rows.length ∧
      table.rows.Perm (rows.map Row.capitalize) ∧
      table.rows.Pairwise (fun row later => row.opcode.toNat < later.opcode.toNat) ∧
      ∀ order : List Row, order.Perm (rows.map Row.capitalize) →
        order.mergeSort (fun row later => decide (row.opcode.toNat ≤ later.opcode.toNat)) =
          table.rows) ∧
    (∀ others table, rows.Perm others →
      (ofRows isa rows = .ok table ↔ ofRows isa others = .ok table)) ∧
    ∀ error, ofRows isa rows = .error error ↔
      ∃ index row, rows[index]? = some row ∧
        (∀ fewer ≤ index, ∃ table, ofRows isa (rows.take fewer) = .ok table) ∧
        (∀ table, ofRows isa (rows.take (index + 1)) ≠ .ok table) ∧
        row.Fault isa (rows.take index) error := by
  refine ⟨?_, ?_, ?_, ?_⟩
  · exact exists_ofRows_iff.trans consistent_map_capitalize_iff
  · intro table accepted
    have perm := (ofRows_eq_ok_iff.mp accepted).2
    refine ⟨fun _ _ _ => row?_of_ofRows accepted, fun _ _ => rowOfOpcode?_iff_row?, ?_, perm,
      table.ascending, ?_⟩
    · rw [perm.length_eq, List.length_map]
    · intro order orderPerm
      exact mergeSort_eq_rows (orderPerm.trans perm.symm)
  · intro others table perm
    have given := perm.map Row.capitalize
    rw [ofRows_eq_ok_iff, ofRows_eq_ok_iff]
    exact and_congr_right fun _ => ⟨fun kept => kept.trans given, fun kept => kept.trans given.symm⟩
  · intro error
    rw [ofRows_eq_error_iff]
    constructor
    · intro refuses
      rcases refuses with ⟨index, row, found, accepted, fault⟩
      refine ⟨index, row, found, ?_, ?_, fault⟩
      · intro fewer le
        apply exists_ofRows_of_sublist _ accepted
        exact List.take_sublist_take_left le
      · have shorter : (rows.take (index + 1))[index]? = some row := by
          rw [List.getElem?_take_of_lt (Nat.lt_succ_self index), found]
        have same : (rows.take (index + 1)).take index = rows.take index := by
          rw [List.take_take, Nat.min_eq_left (Nat.le_succ index)]
        have refused : ofRows isa (rows.take (index + 1)) = .error error := by
          rw [ofRows_eq_error_iff]
          exact ⟨index, row, shorter, by rwa [same], by rwa [same]⟩
        rw [refused]
        nofun
    · intro refuses
      rcases refuses with ⟨index, row, found, accepted, _, fault⟩
      exact ⟨index, row, found, accepted index (Nat.le_refl index), fault⟩

end OpcodeTable

end TwinIsa
