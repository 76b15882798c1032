import TwinIsa.Isa

/-!
Program images: the words of a program in order, up to a capacity. A word keeps the address that it
was stored at. An image is written as text with one word to a line.
-/

namespace TwinIsa

structure CapacityExceeded where
  capacity : Nat
  deriving DecidableEq, Repr

namespace CapacityExceeded

def message (error : CapacityExceeded) : String :=
  "program image full: more than " ++ Numeral.decimalText error.capacity ++ " words"

end CapacityExceeded

/-- The words of a program; a word's index is its address. -/
structure ProgramImage where
  isa : Isa
  capacity : Nat
  words : Array Word
  deriving DecidableEq, Repr

namespace ProgramImage

def empty (isa : Isa) (capacity : Nat) : ProgramImage :=
  ⟨isa, capacity, #[]⟩

def size (image : ProgramImage) : Nat :=
  image.words.size

def isEmpty (image : ProgramImage) : Bool :=
  image.words.isEmpty

def push (image : ProgramImage) (word : Word) : Except CapacityExceeded (ProgramImage × Nat) :=
  if image.size < image.capacity then
    .ok ({ image with words := image.words.push word }, image.size)
  else
    .error ⟨image.capacity⟩

theorem push_of_room {image : ProgramImage} (word : Word) (room : image.size < image.capacity) :
    image.push word = .ok ({ image with words := image.words.push word }, image.size) :=
  if_pos room

theorem push_of_full {image : ProgramImage} (word : Word) (full : ¬image.size < image.capacity) :
    image.push word = .error ⟨image.capacity⟩ :=
  if_neg full

def hexLines (image : ProgramImage) : List String :=
  image.words.toList.map image.isa.formatWord

def hexText (image : ProgramImage) : String :=
  String.join (image.hexLines.map (· ++ "\n"))

/-- A place that text is written to, which may have room for only so many bytes. -/
structure Buffer where
  room : Option Nat
  written : String

def Buffer.write? (buffer : Buffer) (text : String) : Option Buffer :=
  match buffer.room with
  | none => some { buffer with written := buffer.written ++ text }
  | some room =>
      if text.utf8ByteSize ≤ room then
        some ⟨some (room - text.utf8ByteSize), buffer.written ++ text⟩
      else
        none

def writeHex? (image : ProgramImage) (buffer : Buffer) : Option Buffer :=
  image.hexLines.foldlM (fun buffer line => buffer.write? (line ++ "\n")) buffer

/-- A word of the binary machine takes five bytes with its line end. -/
example : ((ProgramImage.mk .binary 2 #[0x690A]).writeHex? ⟨some 5, ""⟩).map (·.written) =
    some "690a\n" := by decide

example : ((ProgramImage.mk .binary 2 #[0x690A]).writeHex? ⟨some 4, ""⟩).isNone := by decide

end ProgramImage

end TwinIsa
