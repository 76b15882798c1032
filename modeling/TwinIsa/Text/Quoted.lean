import TwinIsa.Text.Hidden
import TwinIsa.Text.Numeral

/-!
A text in double quotes, as a message shows it: quotes and backslashes are escaped, the common
controls have their letters, and a hidden character is given by its number in braces.
-/

namespace TwinIsa.Text

def quotedCharacter (character : Char) : List Char :=
  if character = '\x00' then ['\\', '0']
  else if character = '\t' then ['\\', 't']
  else if character = '\n' then ['\\', 'n']
  else if character = '\r' then ['\\', 'r']
  else if character = '"' then ['\\', '"']
  else if character = '\\' then ['\\', '\\']
  else if isHidden character then
    ['\\', 'u', '\x7b'] ++ Numeral.digits 16 character.toNat ++ ['\x7d']
  else [character]

def quoted (text : List Char) : List Char :=
  '"' :: text.flatMap quotedCharacter ++ ['"']

example : quoted ['z', '"', '\x1b'] =
    ['"', 'z', '\\', '"', '\\', 'u', '\x7b', '1', 'b', '\x7d', '"'] := by decide +kernel

end TwinIsa.Text
