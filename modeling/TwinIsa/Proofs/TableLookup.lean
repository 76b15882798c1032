import Mathlib.Data.List.Nodup
import TwinIsa.OpcodeTable.Basic

/-!
Looking up a row by its mnemonic and by its opcode. Since no two rows of a table agree in either
column, each row is what both of its keys find.
-/

namespace TwinIsa

theorem List.find?_key_eq_some_iff {α β : Type} [DecidableEq β] {key : α → β} {values : List α}
    (different : values.Pairwise fun value later => key value ≠ key later) {wanted : β}
    {value : α} :
    values.find? (fun value => key value == wanted) = some value ↔
      value ∈ values ∧ key value = wanted := by
  constructor
  · intro found
    exact ⟨List.mem_of_find?_eq_some found, by simpa using List.find?_some found⟩
  · rintro ⟨member, rfl⟩
    cases found : values.find? (fun other => key other == key value) with
    | none => simpa using List.find?_eq_none.mp found value member
    | some other =>
        have same : key other = key value := by simpa using List.find?_some found
        rw [List.inj_on_of_nodup_map (List.pairwise_map.mpr different)
          (List.mem_of_find?_eq_some found) member same]

theorem List.find?_key_of_perm_cons {α β : Type} [DecidableEq β] (key : α → β)
    {values larger : List α} {value : α}
    (different : larger.Pairwise fun value later => key value ≠ key later)
    (perm : larger.Perm (value :: values)) (wanted : β) :
    larger.find? (fun value => key value == wanted) =
      if key value = wanted then some value
      else values.find? (fun value => key value == wanted) := by
  have differ := (perm.pairwise_iff Ne.symm).mp different
  split
  next same =>
    exact (List.find?_key_eq_some_iff different).mpr ⟨perm.mem_iff.mpr (List.mem_cons_self ..), same⟩
  next other =>
    apply Option.ext
    intro found
    rw [List.find?_key_eq_some_iff different,
      List.find?_key_eq_some_iff (List.pairwise_cons.mp differ).2, perm.mem_iff, List.mem_cons]
    constructor
    · intro either
      rcases either with ⟨rfl | member, same⟩
      · exact absurd same other
      · exact ⟨member, same⟩
    · intro both
      exact ⟨.inr both.1, both.2⟩

namespace OpcodeTable

variable {table : OpcodeTable} {row : Row}

theorem row?_eq_some_iff {mnemonic : String} :
    table.row? mnemonic = some row ↔ row ∈ table.rows ∧ row.mnemonic = mnemonic :=
  List.find?_key_eq_some_iff table.distinct

theorem rowOfOpcode?_eq_some_iff {opcode : Word} :
    table.rowOfOpcode? opcode = some row ↔ row ∈ table.rows ∧ row.opcode = opcode :=
  List.find?_key_eq_some_iff
    (table.ascending.imp fun less equal => Nat.ne_of_lt less (congrArg UInt32.toNat equal))

end OpcodeTable

end TwinIsa
