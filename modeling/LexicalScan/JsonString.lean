import LexicalScan.Quoted

/-!
JSON strings. A double quote, a backslash and every control character below U+0020 are escaped, by
a letter where JSON has one and by four hexadecimal digits where it has none. All else stands for
itself.
-/

namespace LexicalScan.JsonString

def shortForms : List (Char × Char) :=
  [('"', '"'), ('\\', '\\'), ('\x08', 'b'), ('\x0c', 'f'), ('\n', 'n'), ('\r', 'r'), ('\t', 't')]

def byCodePoint (c : Char) : Text :=
  ['\\', 'u', '0', '0', (c.toNat / 16).digitChar, (c.toNat % 16).digitChar]

def form (c : Char) : Text :=
  match shortForms.lookup c with
  | some letter => ['\\', letter]
  | none => if c.toNat < 0x20 then byCodePoint c else [c]

def quoting : Quoting := ⟨'"', form⟩

end LexicalScan.JsonString
