import TwinIsa.OpcodeTable.Error
import TwinIsa.OpcodeTable.Row

/-!
Opcode tables. A table gives each mnemonic one opcode and one format, and each opcode one mnemonic.
`OpcodeTable.ofRows` accepts rows in any order and keeps them by ascending opcode, so that tables
with the same rows are equal; what makes rows a table is kept with them as proofs. `TableMaps` has
the same rows in two maps.
-/

namespace TwinIsa

structure OpcodeTable where
  isa : Isa
  rows : List Row
  admissible : ∀ row ∈ rows, row.Admissible isa
  ascending : rows.Pairwise fun row later => row.opcode.toNat < later.opcode.toNat
  distinct : rows.Pairwise fun row later => row.mnemonic ≠ later.mnemonic

namespace OpcodeTable

/-- The row of a mnemonic. Case matters: tables hold capitalized mnemonics. -/
def row? (table : OpcodeTable) (mnemonic : String) : Option Row :=
  table.rows.find? (·.mnemonic == mnemonic)

def rowOfOpcode? (table : OpcodeTable) (opcode : Word) : Option Row :=
  table.rows.find? (·.opcode == opcode)

def empty (isa : Isa) : OpcodeTable :=
  ⟨isa, [], by simp, .nil, .nil⟩

def insertAscending (row : Row) : List Row → List Row
  | [] => [row]
  | head :: rest =>
      if row.opcode.toNat < head.opcode.toNat then row :: head :: rest
      else head :: insertAscending row rest

theorem mem_insertAscending {row other : Row} {rows : List Row} :
    other ∈ insertAscending row rows ↔ other = row ∨ other ∈ rows := by
  induction rows with
  | nil => simp [insertAscending]
  | cons head rest induction =>
      rw [insertAscending]
      split
      · simp
      · rw [List.mem_cons, induction, List.mem_cons, or_left_comm]

theorem ascending_insertAscending {row : Row} {rows : List Row}
    (ascending : rows.Pairwise fun row later => row.opcode.toNat < later.opcode.toNat)
    (fresh : ∀ other ∈ rows, other.opcode ≠ row.opcode) :
    (insertAscending row rows).Pairwise fun row later =>
      row.opcode.toNat < later.opcode.toNat := by
  induction rows with
  | nil => simp [insertAscending]
  | cons head rest induction =>
      rw [List.pairwise_cons] at ascending
      rw [insertAscending]
      split
      next less =>
        refine List.pairwise_cons.mpr ⟨fun later member => ?_, List.pairwise_cons.mpr ascending⟩
        rcases List.mem_cons.mp member with equal | member
        · exact equal ▸ less
        · exact Nat.lt_trans less (ascending.1 later member)
      next notLess =>
        refine List.pairwise_cons.mpr ⟨fun later member => ?_,
          induction ascending.2 fun other member => fresh other (List.mem_cons_of_mem _ member)⟩
        rcases mem_insertAscending.mp member with equal | member
        · have different : head.opcode.toNat ≠ row.opcode.toNat := fun equal =>
            fresh head (List.mem_cons_self ..) (UInt32.toNat_inj.mp equal)
          subst equal
          omega
        · exact ascending.1 later member

theorem distinct_insertAscending {row : Row} {rows : List Row}
    (distinct : rows.Pairwise fun row later => row.mnemonic ≠ later.mnemonic)
    (fresh : ∀ other ∈ rows, other.mnemonic ≠ row.mnemonic) :
    (insertAscending row rows).Pairwise fun row later => row.mnemonic ≠ later.mnemonic := by
  induction rows with
  | nil => simp [insertAscending]
  | cons head rest induction =>
      rw [insertAscending]
      split
      · exact List.pairwise_cons.mpr
          ⟨fun later member => (fresh later member).symm, distinct⟩
      · rw [List.pairwise_cons] at distinct
        refine List.pairwise_cons.mpr ⟨fun later member => ?_,
          induction distinct.2 fun other member => fresh other (List.mem_cons_of_mem _ member)⟩
        rcases mem_insertAscending.mp member with equal | member
        · exact equal ▸ fresh head (List.mem_cons_self ..)
        · exact distinct.1 later member

/-- The first thing that keeps a capitalized row out of a table. -/
def rejection? (table : OpcodeTable) (row : Row) : Option TableError :=
  if table.isa.layout.opcodeMask < row.opcode.toNat then
    some (.opcodeTooWide row.mnemonic row.opcode table.isa.layout.opcodeBits)
  else if !table.isa.spellsOpcode row.opcode then
    some (.invalidTrit row.mnemonic row.opcode)
  else if (table.isa.shape? row.format).isNone then
    some (.unsupportedFormat row.mnemonic row.format table.isa)
  else
    match table.rowOfOpcode? row.opcode with
    | some other => some (.duplicateOpcode row.mnemonic other.mnemonic row.opcode)
    | none =>
        match table.row? row.mnemonic with
        | some _ => some (.duplicateMnemonic row.mnemonic)
        | none => none

theorem rejection?_eq_none {table : OpcodeTable} {row : Row}
    (accepted : table.rejection? row = none) :
    row.Admissible table.isa ∧ (∀ other ∈ table.rows, other.opcode ≠ row.opcode) ∧
      ∀ other ∈ table.rows, other.mnemonic ≠ row.mnemonic := by
  unfold rejection? at accepted
  split at accepted
  · contradiction
  next fits =>
    split at accepted
    · contradiction
    next spells =>
      split at accepted
      · contradiction
      next available =>
        split at accepted
        · contradiction
        next noOpcode =>
          split at accepted
          · contradiction
          next noMnemonic =>
            refine ⟨⟨by omega, by simpa using spells, ?_⟩, ?_, ?_⟩
            · cases found : table.isa.shape? row.format <;> simp [found] at available ⊢
            · simpa [rowOfOpcode?] using noOpcode
            · simpa [row?] using noMnemonic

def insert (table : OpcodeTable) (row : Row) : Except TableError OpcodeTable :=
  match accepted : table.rejection? row.capitalize with
  | some rejection => .error rejection
  | none =>
      .ok {
        isa := table.isa
        rows := insertAscending row.capitalize table.rows
        admissible := fun other member =>
          (mem_insertAscending.mp member).elim
            (fun equal => equal ▸ (rejection?_eq_none accepted).1) (table.admissible other)
        ascending := ascending_insertAscending table.ascending (rejection?_eq_none accepted).2.1
        distinct := distinct_insertAscending table.distinct (rejection?_eq_none accepted).2.2 }

def ofRows (isa : Isa) (rows : List Row) : Except TableError OpcodeTable :=
  rows.foldlM insert (empty isa)

end OpcodeTable

end TwinIsa
