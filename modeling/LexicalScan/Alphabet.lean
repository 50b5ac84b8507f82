import LexicalScan.Text

/-!
The classes of characters that tokens are made of. All of them are ASCII classes but `isWhiteSpace`,
which is the Unicode property of that name and is used for drawing only.
-/

namespace LexicalScan.Alphabet

def punctuation : List Char := ['{', '}', '(', ')', ':', ';', '<', '>']

def operators : List Char :=
  ['!', '@', '#', '$', '%', '^', '*', '-', '+', '=', '[', ']', '?', '/', '\\', '&', '|']

def blanks : List Char := [' ', '\t', '\n', '\r', '\x0b', '\x0c']

def radixMarks : List Char := ['x', 'o', 'b', 'd']

def isPunctuation (c : Char) : Bool := punctuation.contains c

def isOperator (c : Char) : Bool := operators.contains c

def isBlank (c : Char) : Bool := blanks.contains c

def isRadixMark (c : Char) : Bool := radixMarks.contains c

def isQuote (c : Char) : Bool := c == '"' || c == '\''

def isLineBreak (c : Char) : Bool := c == '\n' || c == '\r'

def isIndentation (c : Char) : Bool := c == ' ' || c == '\t'

def isLetter (c : Char) : Bool := c.isAlpha

def isSymbolPart (c : Char) : Bool := c.isAlphanum || c == '_'

/-- The digits to base sixteen in either case, which every number uses whatever its base. -/
def isHexDigit (c : Char) : Bool :=
  c.isDigit || ('a' ≤ c && c ≤ 'f') || ('A' ≤ c && c ≤ 'F')

def whiteSpace : List (Nat × Nat) :=
  [(0x09, 0x0d), (0x20, 0x20), (0x85, 0x85), (0xa0, 0xa0), (0x1680, 0x1680), (0x2000, 0x200a),
    (0x2028, 0x2029), (0x202f, 0x202f), (0x205f, 0x205f), (0x3000, 0x3000)]

def isWithin (ranges : List (Nat × Nat)) (c : Char) : Bool :=
  ranges.any fun range => range.1 ≤ c.toNat && c.toNat ≤ range.2

def isWhiteSpace (c : Char) : Bool := isWithin whiteSpace c

end LexicalScan.Alphabet
