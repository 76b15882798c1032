import TwinIsa.Isa
import TwinIsa.Text.Uppercase

/-!
The rows of an opcode table, each by itself: an instruction's mnemonic, opcode and format, and what
a machine asks of them.
-/

namespace TwinIsa

structure Row where
  mnemonic : String
  opcode : Word
  format : Format
  deriving DecidableEq, Repr

def Row.capitalize (row : Row) : Row :=
  { row with mnemonic := String.ofList (Text.uppercase row.mnemonic.toList) }

@[simp] theorem Row.capitalize_opcode (row : Row) : row.capitalize.opcode = row.opcode := rfl

@[simp] theorem Row.capitalize_format (row : Row) : row.capitalize.format = row.format := rfl

structure Row.Admissible (isa : Isa) (row : Row) : Prop where
  opcode_le : row.opcode.toNat ≤ isa.layout.opcodeMask
  spells : isa.spellsOpcode row.opcode = true
  available : (isa.shape? row.format).isSome

instance (isa : Isa) (row : Row) : Decidable (row.Admissible isa) :=
  decidable_of_iff (row.opcode.toNat ≤ isa.layout.opcodeMask ∧
      isa.spellsOpcode row.opcode = true ∧ (isa.shape? row.format).isSome)
    ⟨fun holds => ⟨holds.1, holds.2.1, holds.2.2⟩,
      fun holds => ⟨holds.opcode_le, holds.spells, holds.available⟩⟩

end TwinIsa
