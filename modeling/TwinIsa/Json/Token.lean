import TwinIsa.Json.Basic
import TwinIsa.Text.Numeral

/-!
The lexical units of JSON. `Scan.tokens?` reads a text once, character by character, and knows at
every character what it is in the middle of. The grammar is strict: there are no other blanks than
space, tab, line feed and carriage return, and no comments.
-/

namespace TwinIsa.Json

/-- A part of a string literal: a character that stands for itself or is escaped by a letter, or a
UTF-16 unit that is escaped by its number. -/
inductive Piece where
  | character (value : Char)
  | unit (code : Nat)
  deriving DecidableEq, Repr

/-- The text of a string literal. Two surrogates, high before low, are one character; a surrogate
by itself is none. -/
def Piece.join? : List Piece → Option (List Char)
  | [] => some []
  | .character value :: rest => (join? rest).map (value :: ·)
  | .unit high :: .unit low :: rest =>
      if 0xD800 ≤ high ∧ high < 0xDC00 then
        if 0xDC00 ≤ low ∧ low < 0xE000 then
          (join? rest).map (Char.ofNat (0x10000 + (high - 0xD800) * 0x400 + (low - 0xDC00)) :: ·)
        else none
      else if 0xDC00 ≤ high ∧ high < 0xE000 then none
      else (join? (.unit low :: rest)).map (Char.ofNat high :: ·)
  | .unit code :: rest =>
      if 0xD800 ≤ code ∧ code < 0xE000 then none else (join? rest).map (Char.ofNat code :: ·)

inductive Token where
  | openArray
  | closeArray
  | openObject
  | closeObject
  | comma
  | colon
  | string (value : Option String)
  | scalar (value : Json)

def isSpace (character : Char) : Bool :=
  character == ' ' || character == '\t' || character == '\n' || character == '\r'

def punctuation? : Char → Option Token
  | '[' => some .openArray
  | ']' => some .closeArray
  | '\x7b' => some .openObject
  | '\x7d' => some .closeObject
  | ',' => some .comma
  | ':' => some .colon
  | _ => none

def escapedCharacter? : Char → Option Char
  | '"' => some '"'
  | '\\' => some '\\'
  | '/' => some '/'
  | 'b' => some '\x08'
  | 'f' => some '\x0c'
  | 'n' => some '\n'
  | 'r' => some '\r'
  | 't' => some '\t'
  | _ => none

/-! ## Numbers and words -/

def afterDigits? (spelling : List Char) : Option (List Char) :=
  match spelling with
  | [] => none
  | first :: rest =>
      if Numeral.isDigit 10 first then some (rest.dropWhile (Numeral.isDigit 10)) else none

def afterInteger? : List Char → Option (List Char)
  | '0' :: rest => some rest
  | spelling => afterDigits? spelling

def afterFraction? : List Char → Option (List Char)
  | '.' :: rest => afterDigits? rest
  | spelling => some spelling

def afterSign : List Char → List Char
  | '+' :: rest => rest
  | '-' :: rest => rest
  | spelling => spelling

def afterExponent? : List Char → Option (List Char)
  | 'e' :: rest => afterDigits? (afterSign rest)
  | 'E' :: rest => afterDigits? (afterSign rest)
  | spelling => some spelling

/-- A number without its minus sign: whether it is an integer, provided that it is a number. -/
def isInteger? (spelling : List Char) : Option Bool := do
  let rest ← afterInteger? spelling
  let last ← (afterFraction? rest).bind afterExponent?
  guard last.isEmpty
  return rest.isEmpty

def number? (spelling : List Char) : Option Json :=
  match spelling with
  | '-' :: magnitude => do
      let isInteger ← isInteger? magnitude
      if isInteger && Numeral.value 10 magnitude != 0 then
        return integer (-(Numeral.value 10 magnitude))
      else
        return real (String.ofList spelling)
  | _ => do
      let isInteger ← isInteger? spelling
      if isInteger then
        return natural (Numeral.value 10 spelling)
      else
        return real (String.ofList spelling)

example : number? ['0'] = some (natural 0) ∧ number? ['0', '1'] = none ∧
    number? ['-', '0'] = some (real "-0") := ⟨rfl, rfl, rfl⟩

def scalar? (spelling : List Char) : Option Json :=
  if spelling = ['n', 'u', 'l', 'l'] then some null
  else if spelling = ['t', 'r', 'u', 'e'] then some (boolean true)
  else if spelling = ['f', 'a', 'l', 's', 'e'] then some (boolean false)
  else number? spelling

/-! ## Tokens -/

/-- Where in a document a scan stands. What has been read of the current token is kept latest
first. -/
inductive Scan where
  | between
  | scalar (spelled : List Char)
  | string (spelled : List Piece)
  | escape (spelled : List Piece)
  | number (spelled : List Piece) (digits : List Char)

namespace Scan

def start (character : Char) : Scan × List Token :=
  if isSpace character then (between, [])
  else if character = '"' then (string [], [])
  else
    match punctuation? character with
    | some token => (between, [token])
    | none => (scalar [character], [])

def endsScalar (character : Char) : Bool :=
  isSpace character || character == '"' || (punctuation? character).isSome

def step : Scan → Char → Option (Scan × List Token)
  | between, character => some (start character)
  | scalar spelled, character =>
      if endsScalar character then do
        let value ← scalar? spelled.reverse
        let (next, completed) := start character
        return (next, .scalar value :: completed)
      else some (scalar (character :: spelled), [])
  | string spelled, character =>
      if character = '"' then
        some (between, [.string ((Piece.join? spelled.reverse).map String.ofList)])
      else if character = '\\' then some (escape spelled, [])
      else if character.toNat < 0x20 then none
      else some (string (.character character :: spelled), [])
  | escape spelled, character =>
      if character = 'u' then some (number spelled [], [])
      else (escapedCharacter? character).map fun value =>
        (string (.character value :: spelled), [])
  | number spelled digits, character =>
      if Numeral.isDigit 16 character then
        if digits.length = 3 then
          some (string (.unit (Numeral.value 16 (character :: digits).reverse) :: spelled), [])
        else some (number spelled (character :: digits), [])
      else none

def finish : Scan → Option (List Token)
  | between => some []
  | scalar spelled => (scalar? spelled.reverse).map fun value => [.scalar value]
  | _ => none

def tokens? : Scan → List Char → Option (List Token)
  | scan, [] => scan.finish
  | scan, head :: rest => do
      let (next, completed) ← scan.step head
      let later ← next.tokens? rest
      return completed ++ later

end Scan

end TwinIsa.Json
