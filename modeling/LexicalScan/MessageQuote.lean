import LexicalScan.Nongraphic
import LexicalScan.Quoted

/-!
Quoting in messages to people. The delimiter in use, the backslash and four control characters have
an escape of two characters. Every other character without a glyph of its own is written by its
code point in braces. All else, the other kind of quote included, stands for itself.
-/

namespace LexicalScan.MessageQuote

def shortForms : List (Char × Char) :=
  [('\x00', '0'), ('\t', 't'), ('\r', 'r'), ('\n', 'n'), ('\\', '\\')]

def byCodePoint (c : Char) : Text :=
  ['\\', 'u', '{'] ++ Text.hexadecimal c.toNat ++ ['}']

def form (delimiter c : Char) : Text :=
  if c = delimiter then ['\\', c] else
    match shortForms.lookup c with
    | some letter => ['\\', letter]
    | none =>
      if c.toNat < 0x20 || Nongraphic.isNongraphic c then byCodePoint c else [c]

def quoting (delimiter : Char) : Quoting := ⟨delimiter, form delimiter⟩

end LexicalScan.MessageQuote
