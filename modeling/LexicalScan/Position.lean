import LexicalScan.Text

/-!
Places in a text, by row and column. Both are counted from one, and columns count characters.
-/

namespace LexicalScan

structure Position where
  row : Nat
  col : Nat
  deriving DecidableEq

namespace Position

def start : Position := ⟨1, 1⟩

def along (position : Position) (columns : Nat) : Position :=
  { position with col := position.col + columns }

def text (position : Position) : Text :=
  Text.decimal position.row ++ [':'] ++ Text.decimal position.col

end Position

end LexicalScan
