/-!
Blank characters, and the two ways a line is cut along them: `trim` takes them off both ends, and
`fields` keeps the maximal runs between them. Both use one class of characters, so a line that
trims to nothing has no fields.
-/

namespace TwinIsa.Text

/-- The characters with the White_Space property. -/
def isBlank (character : Char) : Bool :=
  let code := character.toNat
  (0x9 ≤ code && code ≤ 0xD) || code == 0x20 || code == 0x85 || code == 0xA0 ||
    code == 0x1680 || (0x2000 ≤ code && code ≤ 0x200A) || code == 0x2028 || code == 0x2029 ||
    code == 0x202F || code == 0x205F || code == 0x3000

/-- The zero-width space shows nothing, but is not blank. -/
example : isBlank ' ' = true ∧ isBlank '\u3000' = true ∧ isBlank '\u200b' = false := by decide

def trim (text : List Char) : List Char :=
  ((text.dropWhile isBlank).reverse.dropWhile isBlank).reverse

def pieces (isSeparator : Char → Bool) : List Char → List (List Char)
  | [] => [[]]
  | head :: rest =>
      if isSeparator head then
        [] :: pieces isSeparator rest
      else
        match pieces isSeparator rest with
        | [] => [[head]]
        | first :: others => (head :: first) :: others

/-- Two separators in a row enclose an empty piece. -/
example : pieces (· == '/') ['a', '/', '/', 'b'] = [['a'], [], ['b']] := rfl

def fields (text : List Char) : List (List Char) :=
  (pieces isBlank text).filter (fun piece => !piece.isEmpty)

example : fields [' ', 'a', 'b', ' ', '\t', 'c'] = [['a', 'b'], ['c']] := by decide

end TwinIsa.Text
