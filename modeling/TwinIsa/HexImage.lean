import TwinIsa.Isa
import TwinIsa.Text.Blank
import TwinIsa.Text.Lines
import TwinIsa.Text.Quoted

/-!
Images as text: one word to a line in hexadecimal, in either case, with blanks around it and empty
lines between. A word may have a plus sign and leading zeros, but must fit the machine.
-/

namespace TwinIsa

inductive NumberError where
  | invalidDigit
  | tooLarge
  deriving DecidableEq, Repr

namespace NumberError

def message : NumberError → String
  | invalidDigit => "invalid digit found in string"
  | tooLarge => "number too large to fit in target type"

end NumberError

/-- What is wrong with a line of an image. Lines are numbered from one, empty ones included. -/
inductive ImageError where
  | badWord (line : Nat) (text : List Char) (reason : NumberError)
  | tooWide (line : Nat) (text : List Char) (bits : Nat)
  deriving DecidableEq, Repr

namespace ImageError

def message : ImageError → String
  | badWord line text _ =>
      "line " ++ Numeral.decimalText line ++ ": bad hex word " ++ String.ofList (Text.quoted text)
  | tooWide line text bits =>
      "line " ++ Numeral.decimalText line ++ ": " ++ String.ofList text ++ " does not fit a " ++
        Numeral.decimalText bits ++ "-bit word"

def causes : ImageError → List String
  | badWord _ _ reason => [reason.message]
  | tooWide _ _ _ => []

end ImageError

structure HexImage where
  isa : Isa
  words : List Word
  deriving DecidableEq, Repr

namespace HexImage

/-- The value of hexadecimal digits after `leading`. The first digit that is none, or with which the
value leaves 32 bits, decides what is wrong. -/
def readDigits (leading : Nat) : List Char → Except NumberError Nat
  | [] => .ok leading
  | head :: rest =>
      match Numeral.digit? 16 head with
      | none => .error .invalidDigit
      | some digit =>
          if leading * 16 + digit < Word.count then readDigits (leading * 16 + digit) rest
          else .error .tooLarge

def readNumber (text : List Char) : Except NumberError Nat :=
  match text with
  | '+' :: digits => if digits.isEmpty then .error .invalidDigit else readDigits 0 digits
  | _ => if text.isEmpty then .error .invalidDigit else readDigits 0 text

example : readNumber ['+', '0', 'F'] = .ok 15 ∧ readNumber ['+'] = .error .invalidDigit :=
  ⟨rfl, rfl⟩

/-- Nine digits are too many only if the first counts. -/
example : readNumber ['1', '0', '0', '0', '0', '0', '0', '0', '0', 'z'] = .error .tooLarge ∧
    readNumber ['0', '0', '0', '0', '0', '0', '0', '0', '1'] = .ok 1 :=
  ⟨rfl, rfl⟩

def readWord (isa : Isa) (number : Nat) (text : List Char) : Except ImageError Word :=
  match readNumber text with
  | .error reason => .error (.badWord number text reason)
  | .ok value =>
      if value < 2 ^ isa.layout.wordBits then .ok (UInt32.ofNat value)
      else .error (.tooWide number text isa.layout.wordBits)

def readLines (isa : Isa) : Nat → List String → Except ImageError (List Word)
  | _, [] => .ok []
  | number, line :: rest =>
      let text := Text.trim line.toList
      if text.isEmpty then readLines isa (number + 1) rest
      else do
        let word ← readWord isa number text
        let words ← readLines isa (number + 1) rest
        return word :: words

def read (isa : Isa) (text : String) : Except ImageError HexImage := do
  let words ← readLines isa 1 (Text.lines text)
  return ⟨isa, words⟩

end HexImage

end TwinIsa
