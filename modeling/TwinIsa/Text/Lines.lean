/-!
The lines of a text or of a file. A line ends at a line feed, and a carriage return right before
that line feed belongs to the ending; a last line needs no ending, and nothing follows a final one.
Text and bytes are cut by the same function. A line of bytes is decoded by itself, so bytes that
are not UTF-8 spoil only the line that holds them.
-/

namespace TwinIsa.Text

def splitLines {α : Type} [DecidableEq α] (lineFeed carriageReturn : α) : List α → List (List α)
  | [] => []
  | [last] => if last = lineFeed then [[]] else [[last]]
  | head :: next :: rest =>
      if head = lineFeed then
        [] :: splitLines lineFeed carriageReturn (next :: rest)
      else if head = carriageReturn ∧ next = lineFeed then
        [] :: splitLines lineFeed carriageReturn rest
      else
        match splitLines lineFeed carriageReturn (next :: rest) with
        | [] => [[head]]
        | first :: others => (head :: first) :: others

/-- A carriage return without a line feed is part of its line. -/
example : splitLines '\n' '\r' ['a', '\r', '\n', '\n', 'b', '\r'] = [['a'], [], ['b', '\r']] := by
  decide

example : splitLines '\n' '\r' ['a', '\n'] = [['a']] := by decide

def lines (text : String) : List String :=
  (splitLines '\n' '\r' text.toList).map String.ofList

def byteLines (bytes : ByteArray) : List (Option String) :=
  (splitLines 0x0A 0x0D bytes.data.toList).map fun line => String.fromUTF8? ⟨line.toArray⟩

end TwinIsa.Text
