import TwinIsa.Listing
import TwinIsa.Proofs.ImageSpelling
import TwinIsa.Proofs.Runs
import TwinIsa.Proofs.SourceText
import TwinIsa.Proofs.WordCodec

/-!
The round trip through a program's image. Every word of an image comes from a line of its source, so
it fits the machine, it decodes, and its mnemonic is one that a line can say. These three facts
about a single word carry it through the text of the image and through the listing.
-/

namespace TwinIsa

/-! ## Words that lines have -/

namespace OpcodeTable

variable {table : OpcodeTable} {text : String} {word : Word}
  (found : table.wordOfText? text = some word)
include found

theorem narrow_of_wordOfText? : word.toNat < 2 ^ table.isa.layout.wordBits := by
  rcases encode_of_wordOfText? found with ⟨line, _, encoded⟩
  exact (Instruction.ofWord?_of_encode encoded).1

theorem ofWord?_of_wordOfText? :
    ∃ instruction, Instruction.ofWord? table word = some instruction ∧
      Text.IsField instruction.mnemonic.toList ∧
      Text.IsCapitalized instruction.mnemonic.toList := by
  rcases encode_of_wordOfText? found with ⟨line, read, encoded⟩
  rcases Instruction.ofWord?_of_encode encoded with ⟨_, row, shape, operands, _, _, _, decoded⟩
  rcases Line.mnemonic_of_ofText? read with ⟨field, capitalized⟩
  exact ⟨_, decoded, field, capitalized⟩

end OpcodeTable

namespace Assembler

variable {assembler : Assembler} {lines : List String} {word : Word}

theorem exists_text_of_mem_words (member : word ∈ assembler.words lines) :
    ∃ text, assembler.table.wordOfText? text = some word := by
  rcases List.mem_filterMap.mp member with ⟨text, _, found⟩
  exact ⟨text, found⟩

/-- Lines that have the given words one by one are all that a run over them is about. -/
theorem run_of_words {text : Word → String} {words : List Word}
    (found : ∀ word ∈ words, assembler.table.wordOfText? (text word) = some word) (first : Nat) :
    assembler.words (words.map text) = words ∧
      assembler.diagnosticsFrom first (words.map text) = [] ∧
      assembler.terminates (words.map text) = false := by
  induction words generalizing first with
  | nil => exact ⟨rfl, rfl, rfl⟩
  | cons word rest induction =>
      rw [List.forall_mem_cons] at found
      rcases OpcodeTable.encode_of_wordOfText? found.1 with ⟨line, read, encoded⟩
      have continues : ¬assembler.Stops (text word) := by simp [Stops, read]
      have noDiagnostic := (OpcodeTable.ofText?_of_ok first read encoded).2
      rcases induction found.2 (first + 1) with ⟨sameWords, noDiagnostics, unterminated⟩
      rw [List.map_cons, words_cons_of_some continues found.1,
        diagnosticsFrom_cons_of_none continues noDiagnostic, terminates_cons continues]
      exact ⟨congrArg _ sameWords, noDiagnostics, unterminated⟩

end Assembler

/-! ## Listings -/

namespace Listing

def wordLine (table : OpcodeTable) (word : Word) : String :=
  ((Instruction.ofWord? table word).map Instruction.text).getD (ListingLine.wordText word)

section

variable {table : OpcodeTable} {text : String} {word : Word}
  (found : table.wordOfText? text = some word)
include found

theorem wordOfText?_wordLine : table.wordOfText? (wordLine table word) = some word := by
  rcases OpcodeTable.ofWord?_of_wordOfText? found with ⟨instruction, decoded, field, capitalized⟩
  rw [wordLine, decoded]
  exact (OpcodeTable.ofText?_of_ok 0 (Instruction.ofText?_text field capitalized)
    (Instruction.encode_sourceLine decoded)).1

theorem lineFeed_not_mem_wordLine :
    '\n' ∉ (wordLine table word).toList ∧ '\r' ∉ (wordLine table word).toList := by
  rcases OpcodeTable.ofWord?_of_wordOfText? found with ⟨instruction, decoded, field, _⟩
  rw [wordLine, decoded]
  exact Instruction.lineFeed_not_mem_text field

end

variable (image : HexImage) (table : OpcodeTable)

theorem map_lines {α : Type} {ofLine : ListingLine → α} {ofWord : Word → α}
    (same : ∀ address word, ofLine (.ofWord image.isa table address word) = ofWord word) :
    (ofImage image table).lines.map ofLine = image.words.map ofWord := by
  apply List.ext_getElem
  · simp [ofImage]
  · intro index within _
    simp [ofImage, same]

theorem map_text_lines :
    (ofImage image table).lines.map (·.text) = image.words.map (wordLine table) :=
  map_lines image table fun _ _ => rfl

theorem undecoded_eq_countP :
    (ofImage image table).undecoded =
      image.words.countP fun word => (Instruction.ofWord? table word).isNone := by
  have instructions : (ofImage image table).lines.map (·.instruction?) =
      image.words.map (Instruction.ofWord? table) := map_lines image table fun _ _ => rfl
  calc
    (ofImage image table).undecoded
        = ((ofImage image table).lines.map (·.instruction?)).countP Option.isNone := by
          rw [List.countP_map]
          rfl
    _ = image.words.countP fun word => (Instruction.ofWord? table word).isNone := by
          rw [instructions, List.countP_map]
          rfl

theorem undecoded_eq_zero
    (decode : ∀ word ∈ image.words, (Instruction.ofWord? table word).isSome = true) :
    (ofImage image table).undecoded = 0 := by
  rw [undecoded_eq_countP, List.countP_eq_zero]
  intro word member
  simpa [Option.isSome_iff_ne_none] using decode word member

theorem lines_text
    (clean : ∀ word ∈ image.words, '\n' ∉ (wordLine table word).toList ∧
      '\r' ∉ (wordLine table word).toList) :
    Text.lines (ofImage image table).text = image.words.map (wordLine table) := by
  have written : (ofImage image table).lines.map (·.text ++ "\n") =
      (image.words.map (wordLine table)).map (· ++ "\n") := by
    rw [← map_text_lines, List.map_map]
    rfl
  rw [text, written]
  apply Text.lines_join
  intro line member
  rcases List.mem_map.mp member with ⟨word, inWords, rfl⟩
  exact clean word inWords

end Listing

/-! ## The round trip -/

namespace Assembler

/-- If a source is assembled, then the text of the image is read back as its words, every word is
listed as an instruction, and the listing is assembled into the same image without a fault. -/
theorem round_trip (assembler : Assembler) (source : String) (assembly : Assembly)
    (assembled : (assembler.runText source).outcome = .ok assembly) :
    HexImage.read assembler.table.isa assembly.image.hexText =
        .ok ⟨assembler.table.isa, assembly.image.words.toList⟩ ∧
      (Listing.ofImage ⟨assembler.table.isa, assembly.image.words.toList⟩
        assembler.table).undecoded = 0 ∧
      (assembler.runText (Listing.ofImage ⟨assembler.table.isa, assembly.image.words.toList⟩
        assembler.table).text).outcome =
          .ok { image := assembly.image, diagnostics := #[], terminated := false } := by
  rw [runText, runLines_outcome] at assembled
  split at assembled
  next room =>
    cases assembled
    have texts : ∀ word ∈ assembler.words (Text.lines source),
        ∃ text, assembler.table.wordOfText? text = some word := by
      intro word member
      exact exists_text_of_mem_words member
    generalize assembler.words (Text.lines source) = words at room texts ⊢
    refine ⟨?_, ?_, ?_⟩
    · apply HexImage.read_hexText ⟨_, _, words.toArray⟩
      intro word member
      rcases texts word member with ⟨text, found⟩
      exact OpcodeTable.narrow_of_wordOfText? found
    · apply Listing.undecoded_eq_zero
      intro word member
      rcases texts word member with ⟨text, found⟩
      rcases OpcodeTable.ofWord?_of_wordOfText? found with ⟨instruction, decoded, _⟩
      rw [decoded]
      rfl
    · have listed : ∀ word ∈ words,
          assembler.table.wordOfText? (Listing.wordLine assembler.table word) = some word := by
        intro word member
        rcases texts word member with ⟨text, found⟩
        exact Listing.wordOfText?_wordLine found
      have cut : Text.lines (Listing.ofImage ⟨assembler.table.isa, words⟩ assembler.table).text =
          words.map (Listing.wordLine assembler.table) := by
        apply Listing.lines_text
        intro word member
        rcases texts word member with ⟨text, found⟩
        exact Listing.lineFeed_not_mem_wordLine found
      rcases run_of_words listed 1 with ⟨sameWords, noDiagnostics, unterminated⟩
      rw [runText, cut, runLines_outcome, sameWords, noDiagnostics, unterminated, if_pos room]
  next => contradiction

/-- A source with a blank line, a line at fault and lines behind its end, none of which is left in
the listing. -/
theorem round_trip_ternary :
    ∃ assembly, ((builtin (.standard .ternary)).runText
        "li r1, -0x4\n\nLOAD R02 q2, 4 ; offset\nLI R9 1\nbeq A0, A\n;;;\nHALT").outcome =
          .ok assembly ∧
      assembly.image.words = #[0x1F10F, 0x35225, 0x30011] ∧ assembly.diagnostics.size = 1 ∧
      HexImage.read .ternary assembly.image.hexText =
        .ok ⟨.ternary, assembly.image.words.toList⟩ ∧
      (Listing.ofImage ⟨.ternary, assembly.image.words.toList⟩ Isa.ternary.builtin).undecoded = 0 ∧
      ((builtin (.standard .ternary)).runText (Listing.ofImage
        ⟨.ternary, assembly.image.words.toList⟩ Isa.ternary.builtin).text).outcome =
          .ok { image := assembly.image, diagnostics := #[], terminated := false } := by
  have assembled : ((builtin (.standard .ternary)).runText
      "li r1, -0x4\n\nLOAD R02 q2, 4 ; offset\nLI R9 1\nbeq A0, A\n;;;\nHALT").outcome =
        .ok ⟨⟨.ternary, 256, #[0x1F10F, 0x35225, 0x30011]⟩,
          #[⟨4, "LI R9 1", .registerOutOfRange "R9" 8⟩], true⟩ := by decide +kernel
  exact ⟨_, assembled, rfl, rfl, round_trip _ _ _ assembled⟩

end Assembler

end TwinIsa
