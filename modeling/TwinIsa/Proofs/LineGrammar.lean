import TwinIsa.Proofs.WordCodec

/-!
The language that lines are written in, and what is wrong with a line outside it. Register tokens
are described by their characters, and the operands of every shape are checked alike: its registers
left to right, then its immediate. The checks are those that encoding makes, so a line encodes if
and only if it passes them all, and otherwise fails for the first that it does not pass.
-/

namespace TwinIsa

/-! ## Decimal numerals -/

namespace Numeral

theorem digit?_ten (character : Char) :
    digit? 10 character =
      if character.isDigit then some (character.toNat - '0'.toNat) else none := by
  have decimal : ('0' ≤ character ∧ character ≤ '9') ↔ character.isDigit = true := by
    rw [Char.isDigit_iff_toNat, Char.le_def, Char.le_def, UInt32.le_iff_toNat_le,
      UInt32.le_iff_toNat_le]
    rfl
  rw [digit?, digitValue?]
  split
  next inside =>
    have below := (Char.isDigit_iff_toNat.mp (decimal.mp inside)).2
    have small : character.toNat - '0'.toNat < 10 := by
      change character.toNat ≤ 57 at below
      change character.toNat - 48 < 10
      omega
    rw [if_pos (decimal.mp inside), Option.filter_some, if_pos (decide_eq_true small)]
  next outside =>
    rw [if_neg (decimal.not.mp outside)]
    split
    · simp
    · split
      · simp
      · rfl

theorem isDigit_ten (character : Char) : isDigit 10 character = character.isDigit := by
  rw [isDigit, digit?_ten]
  cases character.isDigit <;> rfl

theorem valueFrom_ten {digits : List Char} (decimal : ∀ digit ∈ digits, digit.isDigit = true)
    (leading : Nat) : valueFrom 10 leading digits = Nat.ofDigitChars 10 digits leading := by
  induction digits generalizing leading with
  | nil => rfl
  | cons head rest induction =>
      rw [List.forall_mem_cons] at decimal
      rw [Nat.ofDigitChars_cons, ← induction decimal.2, valueFrom, List.foldl_cons, digit?_ten,
        decimal.1, Nat.mul_comm]
      rfl

theorem read?_ten_eq_some_iff {text : List Char} {number : Nat} :
    read? 10 text = some number ↔
      text ≠ [] ∧ (∀ digit ∈ text, digit.isDigit = true) ∧
        number = Nat.ofDigitChars 10 text 0 := by
  have digits : text.all (isDigit 10) = true ↔ ∀ digit ∈ text, digit.isDigit = true := by
    simp only [List.all_eq_true, isDigit_ten]
  have nonempty : (!text.isEmpty) = true ↔ text ≠ [] := by simp
  rw [read?, Option.ite_none_right_eq_some, Bool.and_eq_true, digits, nonempty, and_assoc,
    Option.some.injEq]
  refine and_congr_right fun _ => and_congr_right fun decimal => ?_
  rw [value, valueFrom_ten decimal, eq_comm]

end Numeral

/-! ## Registers -/

namespace Register

theorem isLetter_eq_isAlpha (character : Char) : isLetter character = character.isAlpha := by
  have upper : character.isUpper = (('A' ≤ character) && (character ≤ 'Z')) := by
    rw [Bool.eq_iff_iff, Bool.and_eq_true, decide_eq_true_eq, decide_eq_true_eq]
    exact decide_eq_true_iff
  have lower : character.isLower = (('a' ≤ character) && (character ≤ 'z')) := rfl
  calc
    isLetter character = (character.isLower || character.isUpper) := by rw [isLetter, upper, lower]
    _ = character.isAlpha := Bool.or_comm _ _

def Spells (token : String) (number : Nat) : Prop :=
  ∃ letter digits, token.toList = letter :: digits ∧ letter.isAlpha = true ∧ digits ≠ [] ∧
    (∀ digit ∈ digits, digit.isDigit = true) ∧ number = Nat.ofDigitChars 10 digits 0

def Names (layout : Layout) (token : String) : Prop :=
  ∃ number, Spells token number ∧ number ≤ layout.greatestRegister

inductive Fault (layout : Layout) (token : String) : LineError → Prop
  | malformed (outside : ∀ number, Spells token number → Word.count ≤ number) :
      Fault layout token (.malformedRegister token)
  | outOfRange {number : Nat} (spells : Spells token number)
      (above : layout.greatestRegister < number) (fits : number < Word.count) :
      Fault layout token (.registerOutOfRange token layout.greatestRegister)

theorem number?_eq_some_iff {token : String} {number : Nat} :
    number? token.toList = some number ↔ Spells token number ∧ number < Word.count := by
  rw [Spells, number?.eq_def]
  cases token.toList with
  | nil => simp
  | cons letter digits =>
      simp only [isLetter_eq_isAlpha, Option.ite_none_right_eq_some, Option.filter_eq_some_iff,
        Numeral.read?_ten_eq_some_iff, decide_eq_true_eq, List.cons.injEq]
      constructor
      · intro reads
        rcases reads with ⟨alphabetic, ⟨nonempty, decimal, value⟩, fits⟩
        exact ⟨⟨letter, digits, ⟨rfl, rfl⟩, alphabetic, nonempty, decimal, value⟩, fits⟩
      · intro spells
        rcases spells with ⟨⟨_, _, ⟨rfl, rfl⟩, alphabetic, nonempty, decimal, value⟩, fits⟩
        exact ⟨alphabetic, ⟨nonempty, decimal, value⟩, fits⟩

variable {layout : Layout} {token : String}

theorem Spells.unique {number other : Nat} (spells : Spells token number)
    (spellsOther : Spells token other) : number = other := by
  rcases spells with ⟨letter, digits, whole, _, _, _, value⟩
  rcases spellsOther with ⟨otherLetter, otherDigits, otherWhole, _, _, _, otherValue⟩
  rw [whole, List.cons.injEq] at otherWhole
  rw [value, otherValue, otherWhole.2]

/-- A token that spells no number of a word has the wrong form or spells a greater number. -/
theorem outside_word_iff :
    (∀ number, Spells token number → Word.count ≤ number) ↔
      (¬∃ number, Spells token number) ∨ ∃ number, Spells token number ∧ Word.count ≤ number := by
  constructor
  · intro outside
    by_cases spelled : ∃ number, Spells token number
    · rcases spelled with ⟨number, spells⟩
      exact .inr ⟨number, spells, outside number spells⟩
    · exact .inl spelled
  · intro outside number spells
    rcases outside with unspelled | ⟨other, spellsOther, le⟩
    · exact absurd ⟨number, spells⟩ unspelled
    · exact spells.unique spellsOther ▸ le

theorem read_eq_ok_iff (ordered : layout.Ordered) {number : Nat} :
    read layout token = .ok number ↔ Spells token number ∧ number ≤ layout.greatestRegister := by
  have found : number? token.toList = some number ∧ number ≤ layout.greatestRegister ↔
      Spells token number ∧ number ≤ layout.greatestRegister := by
    rw [number?_eq_some_iff, and_assoc]
    exact and_congr_right fun _ => and_iff_right_of_imp ordered.register_fits
  rw [← found, read]
  cases number? token.toList with
  | none => simp
  | some register =>
      dsimp only
      split
      next le =>
        simp only [Except.ok.injEq, Option.some.injEq]
        exact ⟨fun equal => ⟨equal, equal ▸ le⟩, And.left⟩
      next above =>
        simp only [reduceCtorEq, Option.some.injEq, false_iff]
        intro both
        rcases both with ⟨equal, le⟩
        exact above (equal ▸ le)

theorem read_eq_error_iff {error : LineError} :
    read layout token = .error error ↔ Fault layout token error := by
  have named {number : Nat} : number? token.toList = some number ↔
      Spells token number ∧ number < Word.count := number?_eq_some_iff
  rw [read]
  constructor
  · intro failed
    split at failed
    next unnamed =>
      cases failed
      refine .malformed fun number spells => Nat.le_of_not_lt fun fits => ?_
      rw [named.mpr ⟨spells, fits⟩] at unnamed
      contradiction
    next number found =>
      rcases named.mp found with ⟨spells, fits⟩
      split at failed
      next => contradiction
      next above =>
        cases failed
        exact .outOfRange spells (Nat.lt_of_not_le above) fits
  · intro fault
    cases fault with
    | malformed outside =>
        cases found : number? token.toList with
        | none => rfl
        | some number =>
            rcases named.mp found with ⟨spells, fits⟩
            exact absurd (outside number spells) (Nat.not_le_of_lt fits)
    | outOfRange spells above fits =>
        rw [named.mpr ⟨spells, fits⟩]
        exact if_neg (Nat.not_le_of_lt above)

end Register

/-! ## Immediates -/

inductive ImmediateKind.Fault (kind : ImmediateKind) (bareHex : Bool) (token : String) :
    LineError → Prop
  | malformed (unread : ∀ number, Literal.read bareHex token ≠ .ok number) :
      Fault kind bareHex token (.malformedLiteral token)
  | outOfRange {number : Int} (read : Literal.read bareHex token = .ok number)
      (outside : number < kind.least ∨ kind.greatest < number) :
      Fault kind bareHex token (.immediateOutOfRange number kind.least kind.greatest)

theorem Literal.read_eq_error_iff {bareHex : Bool} {token : String} {error : LineError} :
    read bareHex token = .error error ↔
      (∀ number, read bareHex token ≠ .ok number) ∧ error = .malformedLiteral token := by
  rw [read]
  cases read? bareHex token.toList with
  | none => simp [eq_comm]
  | some number => simp

/-! ## Operands -/

namespace Shape

def registers : Shape → Nat
  | bare => 0
  | registerPair => 2
  | registerImmediate _ => 1
  | memory _ => 2

theorem registers_lt_arity {shape : Shape} {kind : ImmediateKind}
    (stored : shape.immediate? = some kind) : shape.registers < shape.arity := by
  cases shape with
  | bare => contradiction
  | registerPair => contradiction
  | registerImmediate => exact Nat.lt_add_one _
  | memory => exact Nat.lt_add_one _

end Shape

namespace Operands

def checkImmediate (layout : Layout) (kind : ImmediateKind) (token : String) :
    Except LineError Unit := do
  let number ← Literal.read layout.bareHex token
  let _ ← kind.encode number
  return ()

def check (layout : Layout) (shape : Shape) (tokens : List String) : Except LineError Unit := do
  let _ ← (tokens.take shape.registers).mapM (Register.read layout)
  match shape.immediate?, tokens[shape.registers]? with
  | some kind, some token => checkImmediate layout kind token
  | _, _ => return ()

variable {layout : Layout} {shape : Shape} {tokens : List String}

/-- An immediate that does not fit its field is all that can go wrong in storing operands. -/
theorem bits_map_of_immediate {kind : ImmediateKind} {number : Int} (shape : Shape)
    (operands : Operands) (stored : shape.immediate? = some kind)
    (held : operands.immediate? = some number) :
    (operands.bits layout shape).map (fun _ => ()) = kind.encode number >>= fun _ => pure () := by
  rw [bits, stored, held]
  dsimp only
  cases kind.encode number <;> rfl

/-- Reading operands and storing them makes just the checks on the operands. -/
theorem check_of_read? {outcome : Except LineError Operands}
    (read : read? layout shape tokens = some outcome) :
    (outcome >>= fun operands => operands.bits layout shape).map (fun _ => ()) =
      check layout shape tokens := by
  unfold read? at read
  split at read
  · cases read
    rfl
  next first second =>
    cases read
    simp only [check, Shape.registers, readRegisterPair, List.take, List.mapM_cons, List.mapM_nil,
      Shape.immediate?]
    cases Register.read layout first with
    | error error => rfl
    | ok firstRegister =>
        cases Register.read layout second with
        | error error => rfl
        | ok secondRegister => rfl
  next kind register immediate =>
    cases read
    simp only [check, Shape.registers, readRegisterImmediate, List.take, List.mapM_cons,
      List.mapM_nil, Shape.immediate?, List.getElem?_cons_succ, List.getElem?_cons_zero,
      checkImmediate]
    cases Register.read layout register with
    | error error => rfl
    | ok number =>
        cases Literal.read layout.bareHex immediate with
        | error error => rfl
        | ok value =>
            exact bits_map_of_immediate (.registerImmediate kind) (registerImmediate number value)
              rfl rfl
  next kind first second offset =>
    cases read
    simp only [check, Shape.registers, readMemory, List.take, List.mapM_cons,
      List.mapM_nil, Shape.immediate?, List.getElem?_cons_succ, List.getElem?_cons_zero,
      checkImmediate]
    cases Register.read layout first with
    | error error => rfl
    | ok firstRegister =>
        cases Register.read layout second with
        | error error => rfl
        | ok secondRegister =>
            cases Literal.read layout.bareHex offset with
            | error error => rfl
            | ok value =>
                exact bits_map_of_immediate (.memory kind)
                  (memory firstRegister secondRegister value) rfl rfl
  · contradiction

/-! ### Operands that pass the checks -/

theorem checkImmediate_eq_ok_iff {kind : ImmediateKind} {token : String} :
    checkImmediate layout kind token = .ok () ↔
      ∃ number, Literal.read layout.bareHex token = .ok number ∧
        kind.least ≤ number ∧ number ≤ kind.greatest := by
  rw [checkImmediate, bind_eq_ok_iff]
  apply exists_congr
  intro number
  rw [← ImmediateKind.exists_encode_iff, bind_eq_ok_iff]
  simp only [pure, Except.pure, and_true]

structure WellFormed (layout : Layout) (shape : Shape) (tokens : List String) : Prop where
  registers : ∀ token ∈ tokens.take shape.registers, Register.Names layout token
  immediate : ∀ kind, shape.immediate? = some kind →
    ∃ token number, tokens[shape.registers]? = some token ∧
      Literal.read layout.bareHex token = .ok number ∧
      kind.least ≤ number ∧ number ≤ kind.greatest

theorem exists_mapM_register_iff (ordered : layout.Ordered) :
    (∃ registers, tokens.mapM (Register.read layout) = .ok registers) ↔
      ∀ token ∈ tokens, Register.Names layout token := by
  rw [exists_mapM_iff]
  simp only [Register.Names, Register.read_eq_ok_iff ordered]

theorem check_eq_ok_iff (ordered : layout.Ordered) (counted : tokens.length = shape.arity) :
    check layout shape tokens = .ok () ↔ WellFormed layout shape tokens := by
  rw [check, bind_eq_ok_iff, exists_and_right, exists_mapM_register_iff ordered]
  have wellFormed : WellFormed layout shape tokens ↔ _ ∧ _ :=
    ⟨fun formed => ⟨formed.registers, formed.immediate⟩, fun ⟨named, within⟩ => ⟨named, within⟩⟩
  rw [wellFormed]
  apply and_congr_right
  intro _
  cases stored : shape.immediate? with
  | none => simp [pure, Except.pure]
  | some kind =>
      have present : shape.registers < tokens.length :=
        counted ▸ Shape.registers_lt_arity stored
      simp only [List.getElem?_eq_getElem present, checkImmediate_eq_ok_iff, Option.some.injEq,
        forall_eq', exists_and_left, exists_eq_left']

/-! ### The first check that fails -/

inductive Fault (layout : Layout) (shape : Shape) (tokens : List String) : LineError → Prop
  | register {index : Nat} {token : String} {error : LineError} (within : index < shape.registers)
      (found : tokens[index]? = some token)
      (named : ∀ earlier ∈ tokens.take index, Register.Names layout earlier)
      (fault : Register.Fault layout token error) : Fault layout shape tokens error
  | immediate {kind : ImmediateKind} {token : String} {error : LineError}
      (named : ∀ register ∈ tokens.take shape.registers, Register.Names layout register)
      (stored : shape.immediate? = some kind) (found : tokens[shape.registers]? = some token)
      (fault : kind.Fault layout.bareHex token error) : Fault layout shape tokens error

theorem checkImmediate_eq_error_iff {kind : ImmediateKind} {token : String} {error : LineError} :
    checkImmediate layout kind token = .error error ↔ kind.Fault layout.bareHex token error := by
  rw [checkImmediate, bind_eq_error_iff, Literal.read_eq_error_iff]
  constructor
  · intro failed
    rcases failed with ⟨unread, rfl⟩ | ⟨number, read, failed⟩
    · exact .malformed unread
    · rcases bind_eq_error_iff.mp failed with failed | ⟨_, _, impossible⟩
      · rcases ImmediateKind.encode_eq_error_iff.mp failed with ⟨outside, rfl⟩
        exact .outOfRange read outside
      · contradiction
  · intro fault
    cases fault with
    | malformed unread => exact .inl ⟨unread, rfl⟩
    | outOfRange read outside =>
        refine .inr ⟨_, read, bind_eq_error_iff.mpr (.inl ?_)⟩
        exact ImmediateKind.encode_of_outside outside

theorem mapM_register_eq_error_iff (ordered : layout.Ordered) {count : Nat} {error : LineError} :
    (tokens.take count).mapM (Register.read layout) = .error error ↔
      ∃ index token, index < count ∧ tokens[index]? = some token ∧
        (∀ earlier ∈ tokens.take index, Register.Names layout earlier) ∧
        Register.Fault layout token error := by
  rw [mapM_eq_error_iff]
  apply exists_congr
  intro index
  apply exists_congr
  intro token
  rw [List.getElem?_take, Option.ite_none_right_eq_some, List.take_take,
    Register.read_eq_error_iff, and_assoc]
  apply and_congr_right
  intro within
  rw [Nat.min_eq_left (Nat.le_of_lt within)]
  simp only [Register.Names, Register.read_eq_ok_iff ordered]

theorem check_eq_error_iff (ordered : layout.Ordered) {error : LineError} :
    check layout shape tokens = .error error ↔ Fault layout shape tokens error := by
  rw [check, bind_eq_error_iff, mapM_register_eq_error_iff ordered, exists_and_right,
    exists_mapM_register_iff ordered]
  constructor
  · intro failed
    rcases failed with ⟨index, token, within, found, named, fault⟩ | ⟨named, failed⟩
    · exact .register within found named fault
    · split at failed
      next kind token stored found =>
        exact .immediate named stored found (checkImmediate_eq_error_iff.mp failed)
      · contradiction
  · intro fault
    cases fault with
    | register within found named fault => exact .inl ⟨_, _, within, found, named, fault⟩
    | immediate named stored found fault =>
        refine .inr ⟨named, ?_⟩
        rw [stored, found]
        exact checkImmediate_eq_error_iff.mpr fault

end Operands

/-! ## Lines -/

namespace SourceLine

variable {table : OpcodeTable} {line : SourceLine}

def Takes (table : OpcodeTable) (line : SourceLine) (shape : Shape) : Prop :=
  ∃ row ∈ table.rows, row.mnemonic = line.mnemonic ∧ table.isa.shape? row.format = some shape

def WellFormed (table : OpcodeTable) (line : SourceLine) : Prop :=
  ∃ shape, line.Takes table shape ∧ line.operands.length = shape.arity ∧
    Operands.WellFormed table.isa.layout shape line.operands

inductive Fault (table : OpcodeTable) (line : SourceLine) : LineError → Prop
  | unknownMnemonic (absent : ∀ row ∈ table.rows, row.mnemonic ≠ line.mnemonic) :
      Fault table line (.unknownMnemonic line.mnemonic)
  | operandCount {shape : Shape} (takes : line.Takes table shape)
      (miscounted : line.operands.length ≠ shape.arity) :
      Fault table line (.operandCount line.mnemonic shape.arity line.operands.length)
  | operand {shape : Shape} {error : LineError} (takes : line.Takes table shape)
      (counted : line.operands.length = shape.arity)
      (fault : Operands.Fault table.isa.layout shape line.operands error) : Fault table line error

theorem takes_iff {shape : Shape} :
    line.Takes table shape ↔ ∃ row, table.rowAndShape? line.mnemonic = some (row, shape) := by
  simp only [Takes, OpcodeTable.rowAndShape?_eq_some_iff, OpcodeTable.row?_eq_some_iff, and_assoc]

theorem encode_of_absent (absent : ∀ row ∈ table.rows, row.mnemonic ≠ line.mnemonic) :
    line.encode table = .error (.unknownMnemonic line.mnemonic) := by
  have missing : table.rowAndShape? line.mnemonic = none := by
    rw [OpcodeTable.rowAndShape?_eq_none_iff, OpcodeTable.row?, List.find?_eq_none]
    simpa only [beq_iff_eq, ne_eq] using absent
  rw [encode, missing]

theorem encode_of_miscounted {shape : Shape} (takes : line.Takes table shape)
    (miscounted : line.operands.length ≠ shape.arity) :
    line.encode table =
      .error (.operandCount line.mnemonic shape.arity line.operands.length) := by
  rcases takes_iff.mp takes with ⟨row, found⟩
  have unread : Operands.read? table.isa.layout shape line.operands = none := by
    rw [← Option.not_isSome_iff_eq_none, Operands.read?_isSome_iff]
    exact miscounted
  rw [encode, found]
  dsimp only
  rw [unread]

theorem encode_map_of_counted {shape : Shape} (takes : line.Takes table shape)
    (counted : line.operands.length = shape.arity) :
    (line.encode table).map (fun _ => ()) =
      Operands.check table.isa.layout shape line.operands := by
  rcases takes_iff.mp takes with ⟨row, found⟩
  rcases Option.isSome_iff_exists.mp ((Operands.read?_isSome_iff _ _ _).mpr counted) with
    ⟨outcome, read⟩
  rw [← Operands.check_of_read? read, encode, found]
  dsimp only
  rw [read]
  cases outcome with
  | error error => rfl
  | ok operands =>
      change Except.map _ (operands.bits _ shape >>= _) = Except.map _ (operands.bits _ shape)
      cases operands.bits table.isa.layout shape <;> rfl

/-- Either no row has the line's mnemonic or one shape is that of its row. No third case is left,
since every row of a table has a shape. -/
theorem absent_or_takes (table : OpcodeTable) (line : SourceLine) :
    (∀ row ∈ table.rows, row.mnemonic ≠ line.mnemonic) ∨ ∃ shape, line.Takes table shape := by
  by_cases present : ∃ row ∈ table.rows, row.mnemonic = line.mnemonic
  · rcases present with ⟨row, member, same⟩
    rcases Option.isSome_iff_exists.mp (table.admissible row member).available with
      ⟨shape, available⟩
    exact .inr ⟨shape, row, member, same, available⟩
  · exact .inl fun row member same => present ⟨row, member, same⟩

theorem exists_encode_iff_wellFormed :
    (∃ word, line.encode table = .ok word) ↔ line.WellFormed table := by
  have ordered := table.isa.layout_ordered
  constructor
  · intro encodes
    rcases encodes with ⟨word, encoded⟩
    rcases absent_or_takes table line with absent | ⟨shape, takes⟩
    · rw [encode_of_absent absent] at encoded
      contradiction
    · rcases Decidable.em (line.operands.length = shape.arity) with counted | miscounted
      · have checked := encode_map_of_counted takes counted
        rw [encoded] at checked
        exact ⟨shape, takes, counted, (Operands.check_eq_ok_iff ordered counted).mp checked.symm⟩
      · rw [encode_of_miscounted takes miscounted] at encoded
        contradiction
  · intro wellFormed
    rcases wellFormed with ⟨shape, takes, counted, formed⟩
    rw [← map_unit_eq_ok_iff, encode_map_of_counted takes counted]
    exact (Operands.check_eq_ok_iff ordered counted).mpr formed

theorem encode_eq_error_iff_fault {error : LineError} :
    line.encode table = .error error ↔ line.Fault table error := by
  have ordered := table.isa.layout_ordered
  have checked {shape : Shape} (takes : line.Takes table shape)
      (counted : line.operands.length = shape.arity) :
      line.encode table = .error error ↔
        Operands.Fault table.isa.layout shape line.operands error := by
    rw [← Operands.check_eq_error_iff ordered, ← encode_map_of_counted takes counted,
      map_unit_eq_error_iff]
  constructor
  · intro failed
    rcases absent_or_takes table line with absent | ⟨shape, takes⟩
    · rw [encode_of_absent absent] at failed
      cases failed
      exact .unknownMnemonic absent
    · rcases Decidable.em (line.operands.length = shape.arity) with counted | miscounted
      · exact .operand takes counted ((checked takes counted).mp failed)
      · rw [encode_of_miscounted takes miscounted] at failed
        cases failed
        exact .operandCount takes miscounted
  · intro fault
    cases fault with
    | unknownMnemonic absent => exact encode_of_absent absent
    | operandCount takes miscounted => exact encode_of_miscounted takes miscounted
    | operand takes counted fault => exact (checked takes counted).mpr fault

/-! ### Each kind of error -/

/-- The token is a register operand of a line with as many operands as its instruction takes, and
the operands before it name registers. -/
def Reaches (table : OpcodeTable) (line : SourceLine) (token : String) : Prop :=
  ∃ shape index, line.Takes table shape ∧ line.operands.length = shape.arity ∧
    index < shape.registers ∧ line.operands[index]? = some token ∧
    ∀ earlier ∈ line.operands.take index, Register.Names table.isa.layout earlier

theorem Fault.of_reaches {token : String} {error : LineError} (reaches : line.Reaches table token)
    (fault : Register.Fault table.isa.layout token error) : line.Fault table error := by
  rcases reaches with ⟨shape, index, takes, counted, within, found, named⟩
  exact .operand takes counted (.register within found named fault)

theorem fault_unknownMnemonic_iff {mnemonic : String} :
    line.Fault table (.unknownMnemonic mnemonic) ↔
      mnemonic = line.mnemonic ∧ ∀ row ∈ table.rows, row.mnemonic ≠ line.mnemonic := by
  constructor
  · intro fault
    cases fault with
    | unknownMnemonic absent => exact ⟨rfl, absent⟩
    | operand _ _ fault => rcases fault with ⟨_, _, _, fault⟩ | ⟨_, _, _, fault⟩ <;> cases fault
  · intro unknown
    rcases unknown with ⟨same, absent⟩
    exact same ▸ .unknownMnemonic absent

theorem fault_malformedRegister_iff {token : String} :
    line.Fault table (.malformedRegister token) ↔
      line.Reaches table token ∧
        ((¬∃ number, Register.Spells token number) ∨
          ∃ number, Register.Spells token number ∧ Word.count ≤ number) := by
  rw [← Register.outside_word_iff]
  constructor
  · intro fault
    cases fault with
    | operand takes counted fault =>
        rcases fault with ⟨within, found, named, fault⟩ | ⟨_, _, _, fault⟩
        · cases fault with
          | malformed outside =>
              exact ⟨⟨_, _, takes, counted, within, found, named⟩, outside⟩
        · cases fault
  · intro reached
    rcases reached with ⟨reaches, outside⟩
    exact .of_reaches reaches (.malformed outside)

theorem fault_registerOutOfRange_iff {token : String} {greatest : Nat} :
    line.Fault table (.registerOutOfRange token greatest) ↔
      greatest = table.isa.layout.greatestRegister ∧ line.Reaches table token ∧
        ∃ number, Register.Spells token number ∧
          table.isa.layout.greatestRegister < number ∧ number < Word.count := by
  constructor
  · intro fault
    cases fault with
    | operand takes counted fault =>
        rcases fault with ⟨within, found, named, fault⟩ | ⟨_, _, _, fault⟩
        · cases fault with
          | outOfRange spells above fits =>
              exact ⟨rfl, ⟨_, _, takes, counted, within, found, named⟩, _, spells, above, fits⟩
        · cases fault
  · intro reached
    rcases reached with ⟨bound, reaches, number, spells, above, fits⟩
    exact bound ▸ .of_reaches reaches (.outOfRange spells above fits)

theorem Fault.immediate_outside {number least greatest : Int}
    (fault : line.Fault table (.immediateOutOfRange number least greatest)) :
    ∃ shape kind, line.Takes table shape ∧ shape.immediate? = some kind ∧
      least = kind.least ∧ greatest = kind.greatest ∧ (number < least ∨ greatest < number) := by
  cases fault with
  | operand takes _ fault =>
      rcases fault with ⟨_, _, _, fault⟩ | ⟨_, stored, _, fault⟩
      · cases fault
      · cases fault with
        | outOfRange _ outside => exact ⟨_, _, takes, stored, rfl, rfl, outside⟩

/-- Encoding takes just the well-formed lines, and of any other line it says what is wrong with it
first. -/
theorem encode_classifies (table : OpcodeTable) (line : SourceLine) :
    ((∃ word, line.encode table = .ok word) ↔ line.WellFormed table) ∧
    (∀ error, line.encode table = .error error ↔ line.Fault table error) ∧
    (∀ mnemonic, line.encode table = .error (.unknownMnemonic mnemonic) ↔
      mnemonic = line.mnemonic ∧ ∀ row ∈ table.rows, row.mnemonic ≠ line.mnemonic) ∧
    (∀ row ∈ table.rows, ∃ shape, table.isa.shape? row.format = some shape) ∧
    (∀ token, line.encode table = .error (.malformedRegister token) ↔
      line.Reaches table token ∧
        ((¬∃ number, Register.Spells token number) ∨
          ∃ number, Register.Spells token number ∧ Word.count ≤ number)) ∧
    (∀ token greatest, line.encode table = .error (.registerOutOfRange token greatest) ↔
      greatest = table.isa.layout.greatestRegister ∧ line.Reaches table token ∧
        ∃ number, Register.Spells token number ∧
          table.isa.layout.greatestRegister < number ∧ number < Word.count) ∧
    (∀ number least greatest,
      line.encode table = .error (.immediateOutOfRange number least greatest) →
        ∃ shape kind, line.Takes table shape ∧ shape.immediate? = some kind ∧
          least = kind.least ∧ greatest = kind.greatest ∧
          (number < least ∨ greatest < number)) := by
  refine ⟨exists_encode_iff_wellFormed, fun _ => encode_eq_error_iff_fault, ?_, ?_, ?_, ?_, ?_⟩
  · intro mnemonic
    rw [encode_eq_error_iff_fault, fault_unknownMnemonic_iff]
  · intro row member
    exact Option.isSome_iff_exists.mp (table.admissible row member).available
  · intro token
    rw [encode_eq_error_iff_fault, fault_malformedRegister_iff]
  · intro token greatest
    rw [encode_eq_error_iff_fault, fault_registerOutOfRange_iff]
  · intro number least greatest failed
    exact (encode_eq_error_iff_fault.mp failed).immediate_outside

end SourceLine

end TwinIsa
