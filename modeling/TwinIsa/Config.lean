import TwinIsa.Isa
import TwinIsa.Json.Reader

/-!
The settings of a run, and the documents that they are read from. A document may leave out any of
them, and then the standard settings hold.
-/

namespace TwinIsa

def standardCapacity : Nat := 256

structure Config where
  isa : Isa
  capacity : Nat := standardCapacity
  stopAtTerminator : Bool := true
  deriving DecidableEq, Repr

namespace Config

def standard (isa : Isa) : Config := { isa }

def greatestCapacity : Nat := 2 ^ (64 : Nat) - 1

def toJson (config : Config) : Json :=
  .object [("isa", .text config.isa.name), ("capacity", .natural config.capacity),
    ("stop_at_terminator", .boolean config.stopAtTerminator)]

def orStandard {α : Type} (standard : α) (read? : Json → Option α) (given : Option Json) :
    Option α :=
  (given.map read?).getD (some standard)

def ofJson? (record : Json) : Option Config :=
  let standard := standard .binary
  match record.record? ["isa", "capacity", "stop_at_terminator"] with
  | some [isa, capacity, stopAtTerminator] => do
      let isa ← orStandard standard.isa (fun isa => isa.choice?.bind Isa.ofName?) isa
      let capacity ← orStandard standard.capacity (·.naturalUpTo? greatestCapacity) capacity
      let stop ← orStandard standard.stopAtTerminator Json.boolean? stopAtTerminator
      return ⟨isa, capacity, stop⟩
  | _ => none

def ofDocument? (document : String) : Option Config :=
  (Json.parse? document).bind ofJson?

end Config

end TwinIsa
