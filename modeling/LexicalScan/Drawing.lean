import LexicalScan.Alphabet
import LexicalScan.Diagnostic
import LexicalScan.Lines

/-!
A diagnostic drawn against its source: a heading, the place, and the line with a caret under the
column of the diagnostic. The line is shown without its indentation and the caret moves left with
it. A gutter as wide as the row number keeps the bars in one column.
-/

namespace LexicalScan

structure WidthFault where
  width : Nat
  deriving DecidableEq

namespace WidthFault

def message (_ : WidthFault) : Text := "Formatting argument out of range".toList

end WidthFault

namespace Drawing

def widthLimit : Nat := 65535

def indentation (line : Text) : Nat := (line.takeWhile Alphabet.isIndentation).length

def trimEnd (text : Text) : Text := (text.reverse.dropWhile Alphabet.isWhiteSpace).reverse

def shown (line : Text) : Text :=
  (trimEnd (line.drop (indentation line))).map fun c => if c = '\t' then ' ' else c

/-- The width of the field that ends in the caret. A column inside the indentation is drawn as the
first one. -/
def caretWidth (line : Text) (col : Nat) : Nat := max (col - indentation line) 1

def caret (width : Nat) : Text := List.replicate (width - 1) '-' ++ ['^']

def bar (row : Nat) : Text := Text.alignRight ((Text.decimal row).length + 2) ['|']

def heading (cause : Cause) : Text :=
  "Error: ".toList ++ cause.name ++
    match cause.tip? with
    | none => []
    | some tip => " (".toList ++ tip ++ [')']

def rows (diagnostic : Diagnostic) (line : Text) : List Text :=
  let position := diagnostic.position
  [heading diagnostic.cause,
    "-> ".toList ++ diagnostic.file ++ [':'] ++ position.text,
    bar position.row,
    Text.decimal position.row ++ " | ".toList ++ shown line,
    bar position.row ++ [' '] ++ caret (caretWidth line position.col)]

end Drawing

/-- Draws a diagnostic, unless the caret would stand too far to the right. A row that the source
does not have is drawn as an empty line. -/
def Diagnostic.draw (diagnostic : Diagnostic) (source : Text) : Except WidthFault Text :=
  let line := (Lines.line? source diagnostic.position.row).getD []
  let width := Drawing.caretWidth line diagnostic.position.col
  if Drawing.widthLimit < width then .error ⟨width⟩
  else .ok ((Drawing.rows diagnostic line).flatMap fun row => row ++ ['\n'])

end LexicalScan
