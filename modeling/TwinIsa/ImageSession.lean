import TwinIsa.Report

/-!
An image in use: words are pushed to it and questions are asked about it, in any order. A push
changes the image in place, so what it leaves counts also where it fails.
-/

namespace TwinIsa

namespace ProgramImage

def pushInPlace (word : Word) : ExceptT CapacityExceeded (StateM ProgramImage) Nat := do
  let image ← get
  if image.capacity ≤ image.size then
    throw ⟨image.capacity⟩
  set { image with words := image.words.push word }
  return (← get).size - 1

inductive Query where
  | isa
  | words
  | size
  | isEmpty
  | hexLines
  | hexText
  /-- The image written to a buffer that may hold text already. -/
  | written (buffer : Buffer)
  | document

inductive Operation where
  | push (word : Word)
  | read (query : Query)

inductive Answer where
  | pushed (result : Except CapacityExceeded Nat)
  | isa (isa : Isa)
  | words (words : Array Word)
  | size (size : Nat)
  | isEmpty (isEmpty : Bool)
  | hexLines (lines : List String)
  | hexText (text : String)
  | written (buffer? : Option Buffer)
  | document (document : Json)

def Query.answer (image : ProgramImage) : Query → Answer
  | isa => .isa image.isa
  | words => .words image.words
  | size => .size image.size
  | isEmpty => .isEmpty image.isEmpty
  | hexLines => .hexLines image.hexLines
  | hexText => .hexText image.hexText
  | written buffer => .written (image.writeHex? buffer)
  | document => .document image.toJson

def Operation.perform : Operation → StateM ProgramImage Answer
  | push word => return .pushed (← (pushInPlace word).run)
  | read query => return query.answer (← get)

def step (image : ProgramImage) (operation : Operation) : Answer × ProgramImage :=
  operation.perform.run image

def session (image : ProgramImage) : List Operation → List Answer × ProgramImage
  | [] => ([], image)
  | operation :: rest =>
      let (answer, next) := image.step operation
      let (answers, last) := next.session rest
      (answer :: answers, last)

/-- After a push that fails, the image can be asked for its words as before. -/
example : ((empty .binary 1).session [.push 0x690A, .push 7, .read .words]).2 =
    ⟨.binary, 1, #[0x690A]⟩ := by decide

end ProgramImage

end TwinIsa
