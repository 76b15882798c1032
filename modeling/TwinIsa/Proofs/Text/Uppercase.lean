import Mathlib.Data.List.Basic
import TwinIsa.Text.Blank
import TwinIsa.Text.Uppercase

/-!
Capitals are their own capitals, and capitalizing makes no separator out of a letter. The tables of
capitals are compared run by run and not character by character: the capitals of a run form a run
themselves, which must keep clear of every run of characters that have another capital.
-/

namespace TwinIsa.Text

/-- A character that can stand in a field of a line. -/
def IsSolid (character : Char) : Prop :=
  isBlank character = false ∧ character ≠ ',' ∧ character ≠ ';'

instance (character : Char) : Decidable (IsSolid character) := by
  unfold IsSolid
  infer_instance

def IsField (text : List Char) : Prop :=
  text ≠ [] ∧ ∀ character ∈ text, IsSolid character

instance (text : List Char) : Decidable (IsField text) :=
  decidable_of_iff ((!text.isEmpty && text.all fun character => decide (IsSolid character)) = true)
    (by simp [IsField])

def IsCapitalized (text : List Char) : Prop :=
  uppercase text = text

instance (text : List Char) : Decidable (IsCapitalized text) :=
  decEq (uppercase text) text

def nonSolidRanges : List (Nat × Nat) := [
  (0x9, 0xD), (0x20, 0x20), (0x2C, 0x2C), (0x3B, 0x3B), (0x85, 0x85), (0xA0, 0xA0),
  (0x1680, 0x1680), (0x2000, 0x200A), (0x2028, 0x2029), (0x202F, 0x202F), (0x205F, 0x205F),
  (0x3000, 0x3000), (0xD800, 0xDFFF)]

theorem isSolid_of_outside {character : Char}
    (outside : ∀ range ∈ nonSolidRanges, ¬(range.1 ≤ character.toNat ∧ character.toNat ≤ range.2)) :
    IsSolid character := by
  simp only [nonSolidRanges, List.mem_cons, List.not_mem_nil, or_false, forall_eq_or_imp,
    forall_eq] at outside
  refine ⟨?_, ?_, ?_⟩
  · rw [Bool.eq_false_iff]
    intro blank
    simp only [isBlank, Bool.or_eq_true, Bool.and_eq_true, decide_eq_true_eq, beq_iff_eq] at blank
    omega
  · rintro rfl
    exact absurd outside (by decide)
  · rintro rfl
    exact absurd outside (by decide)

namespace CapitalRun

def misses (run : CapitalRun) (first last : Nat) : Bool :=
  Nat.blt (run.target + (run.last - run.first)) first || Nat.blt last run.target

/-- No capital of the run has a capital by another run. Runs that overlap step from one character
to the next but one, and the two then differ in parity. -/
def avoids (run other : CapitalRun) : Bool :=
  run.misses other.first other.last ||
    other.step == 2 && (run.step == 2 || run.first == run.last) &&
      (run.target + other.first) % 2 == 1

def isSettled (run : CapitalRun) : Bool :=
  Nat.blt (run.target + (run.last - run.first)) 0x110000 &&
    nonSolidRanges.all (fun range => run.misses range.1 range.2) &&
    capitalExpansions.all (fun entry => run.misses entry.1 entry.1) && capitalRuns.all run.avoids

variable {run : CapitalRun} {code capital : Nat} (found : run.capital? code = some capital)
include found

theorem capital_bounds : run.target ≤ capital ∧ capital ≤ run.target + (run.last - run.first) := by
  simp only [capital?, Option.ite_none_right_eq_some, Option.some.injEq] at found
  omega

theorem outside_of_misses {first last : Nat} (missed : run.misses first last = true) :
    ¬(first ≤ capital ∧ capital ≤ last) := by
  have bounds := capital_bounds found
  simp only [misses, Bool.or_eq_true, Nat.blt_eq] at missed
  omega

theorem capital?_eq_none_of_avoids {other : CapitalRun} (avoided : run.avoids other = true) :
    other.capital? capital = none := by
  simp only [avoids, Bool.or_eq_true, Bool.and_eq_true, beq_iff_eq] at avoided
  rcases avoided with missed | ⟨⟨otherStep, step⟩, parity⟩
  · have outside := outside_of_misses found missed
    apply if_neg
    intro inside
    exact outside ⟨inside.1, inside.2.1⟩
  · simp only [capital?, Option.ite_none_right_eq_some, Option.some.injEq] at found
    apply if_neg
    intro inside
    rcases step with step | single
    · rw [step] at found
      rw [otherStep] at inside
      omega
    · rw [otherStep] at inside
      omega

theorem capitals_of_isSettled (settled : run.isSettled = true) :
    capitals (Char.ofNat capital) = [Char.ofNat capital] ∧ IsSolid (Char.ofNat capital) := by
  simp only [isSettled, Bool.and_eq_true, List.all_eq_true, Nat.blt_eq] at settled
  rcases settled with ⟨⟨⟨below, missesRanges⟩, missesExpansions⟩, avoidsRuns⟩
  have bounds := capital_bounds found
  have outside : ∀ range ∈ nonSolidRanges, ¬(range.1 ≤ capital ∧ capital ≤ range.2) :=
    fun range member => outside_of_misses found (missesRanges range member)
  have noSurrogate := outside (0xD800, 0xDFFF) (by decide)
  have number : (Char.ofNat capital).toNat = capital := by
    have valid : capital.isValidChar := by
      simp only [Nat.isValidChar]
      omega
    rw [Char.ofNat, dif_pos valid]
    rfl
  refine ⟨?_, isSolid_of_outside (by rw [number]; exact outside)⟩
  have noRun : capitalRuns.findSome? (·.capital? capital) = none := by
    apply List.findSome?_eq_none_iff.mpr
    intro other member
    exact capital?_eq_none_of_avoids found (avoidsRuns other member)
  have noExpansion : capitalExpansions.lookup capital = none := by
    rw [List.lookup_eq_none_iff]
    intro entry member
    have missed := outside_of_misses found (missesExpansions entry member)
    simp only [bne_iff_ne, ne_eq]
    omega
  rw [capitals, number, noRun, noExpansion]

end CapitalRun

/-! ## Characters -/

theorem capitalRuns_settled : ∀ run ∈ capitalRuns, run.isSettled = true :=
  List.all_eq_true.mp (by decide +kernel)

theorem capitalExpansions_settled :
    ∀ entry ∈ capitalExpansions, entry.2 ≠ [] ∧
      ∀ code ∈ entry.2, CapitalRun.isSettled ⟨code, code, 1, code⟩ = true := by
  have checked : capitalExpansions.all (fun entry => !entry.2.isEmpty &&
      entry.2.all fun code => CapitalRun.isSettled ⟨code, code, 1, code⟩) = true := by
    decide +kernel
  simpa [List.all_eq_true] using checked

/-- A character is its only capital form, or its capitals are settled characters. -/
theorem capitals_eq_self_or (character : Char) :
    capitals character = [character] ∨
      capitals character ≠ [] ∧
        ∀ capital ∈ capitals character, capitals capital = [capital] ∧ IsSolid capital := by
  rw [capitals]
  split
  next code found =>
    rcases List.exists_of_findSome?_eq_some found with ⟨run, member, foundInRun⟩
    refine .inr ⟨by simp, ?_⟩
    intro capital inCapitals
    cases List.mem_singleton.mp inCapitals
    exact CapitalRun.capitals_of_isSettled foundInRun (capitalRuns_settled run member)
  next =>
    split
    next codes found =>
      have entry : (character.toNat, codes) ∈ capitalExpansions := by
        rcases List.lookup_eq_some_iff.mp found with ⟨earlier, later, split, _⟩
        rw [split]
        exact List.mem_append_right earlier List.mem_cons_self
      rcases capitalExpansions_settled _ entry with ⟨nonempty, settled⟩
      refine .inr ⟨by simpa using nonempty, ?_⟩
      intro capital inCapitals
      rcases List.mem_map.mp inCapitals with ⟨code, inCodes, rfl⟩
      exact CapitalRun.capitals_of_isSettled
        (show CapitalRun.capital? ⟨code, code, 1, code⟩ code = some code by
          simp [CapitalRun.capital?])
        (settled code inCodes)
    next => exact .inl rfl

theorem capitals_ne_nil (character : Char) : capitals character ≠ [] := by
  rcases capitals_eq_self_or character with self | ⟨nonempty, _⟩
  · simp [self]
  · exact nonempty

theorem capitals_of_mem_capitals {character capital : Char}
    (member : capital ∈ capitals character) : capitals capital = [capital] := by
  rcases capitals_eq_self_or character with self | ⟨_, settled⟩
  · rw [self, List.mem_singleton] at member
    rw [member, self]
  · exact (settled capital member).1

theorem isSolid_of_mem_capitals {character capital : Char} (solid : IsSolid character)
    (member : capital ∈ capitals character) : IsSolid capital := by
  rcases capitals_eq_self_or character with self | ⟨_, settled⟩
  · rw [self, List.mem_singleton] at member
    rwa [member]
  · exact (settled capital member).2

/-! ## Texts -/

theorem isCapitalized_uppercase (text : List Char) : IsCapitalized (uppercase text) := by
  induction text with
  | nil => rfl
  | cons head rest induction =>
      have settled : uppercase (capitals head) = capitals head := by
        calc
          uppercase (capitals head) = (capitals head).flatMap fun capital => [capital] :=
            List.flatMap_congr fun capital member => capitals_of_mem_capitals member
          _ = capitals head := by simp
      rw [IsCapitalized] at induction ⊢
      have cut : uppercase (head :: rest) = capitals head ++ uppercase rest := List.flatMap_cons
      calc
        uppercase (uppercase (head :: rest))
            = uppercase (capitals head) ++ uppercase (uppercase rest) := by
              rw [cut]
              exact List.flatMap_append
        _ = uppercase (head :: rest) := by rw [settled, induction, cut]

theorem isField_uppercase {text : List Char} (field : IsField text) : IsField (uppercase text) := by
  rcases field with ⟨nonempty, solid⟩
  constructor
  · rcases List.exists_cons_of_ne_nil nonempty with ⟨head, rest, rfl⟩
    rw [uppercase, List.flatMap_cons]
    exact fun empty => capitals_ne_nil head (List.append_eq_nil_iff.mp empty).1
  · intro capital member
    rcases List.mem_flatMap.mp member with ⟨character, inText, inCapitals⟩
    exact isSolid_of_mem_capitals (solid character inText) inCapitals

end TwinIsa.Text
