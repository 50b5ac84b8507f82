import LexicalScan.Text

/-!
The numbered lines of a text. A newline separates two lines, so a text that ends in one has an empty
last line, and no text is without a line. A carriage return in front of the newline belongs to the
line ending.
-/

namespace LexicalScan.Lines

def withoutReturn (line : Text) : Text :=
  if line.getLast? = some '\r' then line.dropLast else line

/-- The line of a row, without its ending. Rows are counted from one. -/
def line? (source : Text) (row : Nat) : Option Text :=
  if row = 0 then none else (source.splitOn '\n')[row - 1]?.map withoutReturn

end LexicalScan.Lines
