import TwinIsa.Json.Basic
import TwinIsa.Text.Numeral

/-!
Writing JSON over several lines: two spaces for each level, one item or field to a line, a space
after a colon, and nothing between the brackets of what is empty. Strings escape what they must and
leave every other character as it is.
-/

namespace TwinIsa.Json

def escape (character : Char) : List Char :=
  if character = '"' then ['\\', '"']
  else if character = '\\' then ['\\', '\\']
  else if character = '\x08' then ['\\', 'b']
  else if character = '\x0c' then ['\\', 'f']
  else if character = '\n' then ['\\', 'n']
  else if character = '\r' then ['\\', 'r']
  else if character = '\t' then ['\\', 't']
  else if character.toNat < 0x20 then '\\' :: 'u' :: Numeral.paddedDigits 16 4 character.toNat
  else [character]

def literal (value : String) : List Char :=
  '"' :: value.toList.flatMap escape ++ ['"']

def indentation (level : Nat) : List Char :=
  List.replicate (2 * level) ' '

mutual

/-- A value whose first line is already indented and whose last line is at `level`. -/
def characters (level : Nat) : Json → List Char
  | null => ['n', 'u', 'l', 'l']
  | boolean true => ['t', 'r', 'u', 'e']
  | boolean false => ['f', 'a', 'l', 's', 'e']
  | integer value => Numeral.decimal value
  | real spelling => spelling.toList
  | text value => literal value
  | array [] => ['[', ']']
  | array (first :: others) =>
      ['[', '\n'] ++ itemCharacters (level + 1) (first :: others) ++ indentation level ++ [']']
  | object [] => ['\x7b', '\x7d']
  | object (first :: others) =>
      ['\x7b', '\n'] ++ fieldCharacters (level + 1) (first :: others) ++ indentation level ++
        ['\x7d']
  | unreadable => ['"', '\\', 'u', 'd', '8', '0', '0', '"']

def itemCharacters (level : Nat) : List Json → List Char
  | [] => []
  | [last] => indentation level ++ characters level last ++ ['\n']
  | head :: next :: rest =>
      indentation level ++ characters level head ++ [',', '\n'] ++
        itemCharacters level (next :: rest)

def fieldCharacters (level : Nat) : List (String × Json) → List Char
  | [] => []
  | [(name, value)] =>
      indentation level ++ literal name ++ [':', ' '] ++ characters level value ++ ['\n']
  | (name, value) :: next :: rest =>
      indentation level ++ literal name ++ [':', ' '] ++ characters level value ++ [',', '\n'] ++
        fieldCharacters level (next :: rest)

end

def pretty (value : Json) : String :=
  String.ofList (characters 0 value)

end TwinIsa.Json
