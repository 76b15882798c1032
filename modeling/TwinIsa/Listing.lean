import TwinIsa.HexImage
import TwinIsa.Instruction

/-!
Listings: the words of an image as source lines. A word that stands for no instruction is listed by
its value, in a form that no table can give a meaning.
-/

namespace TwinIsa

structure ListingLine where
  address : Nat
  hex : String
  text : String
  instruction? : Option Instruction
  deriving DecidableEq, Repr

namespace ListingLine

def wordText (word : Word) : String :=
  ".word 0x" ++ String.ofList (Numeral.digits 16 word.toNat)

def ofWord (isa : Isa) (table : OpcodeTable) (address : Nat) (word : Word) : ListingLine :=
  let instruction? := Instruction.ofWord? table word
  { address
    hex := isa.formatWord word
    text := (instruction?.map Instruction.text).getD (wordText word)
    instruction? }

def numberedText (line : ListingLine) : String :=
  String.ofList ((Numeral.digits 10 line.address).leftpad 3 ' ') ++ ": " ++ line.hex ++ "  " ++
    line.text

end ListingLine

structure Listing where
  isa : Isa
  lines : List ListingLine
  deriving DecidableEq, Repr

namespace Listing

def ofImage (image : HexImage) (table : OpcodeTable) : Listing where
  isa := image.isa
  lines := image.words.mapIdx fun address word => .ofWord image.isa table address word

def words (listing : Listing) : Nat :=
  listing.lines.length

def undecoded (listing : Listing) : Nat :=
  listing.lines.countP (·.instruction?.isNone)

def text (listing : Listing) : String :=
  String.join (listing.lines.map (·.text ++ "\n"))

def numberedText (listing : Listing) : String :=
  String.join (listing.lines.map (·.numberedText ++ "\n"))

end Listing

end TwinIsa
