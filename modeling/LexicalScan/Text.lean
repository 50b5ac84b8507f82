/-!
Text is a list of characters, so a column is a place in a list and a law about text is a law about
lists. Numbers are written here in decimal and in lowercase hexadecimal digits.
-/

namespace LexicalScan

abbrev Text := List Char

namespace Text

def decimal (number : Nat) : Text := Nat.toDigits 10 number

def hexadecimal (number : Nat) : Text := Nat.toDigits 16 number

def byteCount (text : Text) : Nat := text.foldr (fun c total => c.utf8Size + total) 0

def lastLine (text : Text) : Text := (text.reverse.takeWhile (· != '\n')).reverse

def alignRight (width : Nat) (text : Text) : Text := text.leftpad width ' '

end Text

end LexicalScan
