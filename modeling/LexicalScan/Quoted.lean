import LexicalScan.Text

/-!
Quoted text stands between two copies of a delimiter, and each of its characters is written in a
form of its own. A `Quoting` gives the delimiter and the forms.
-/

namespace LexicalScan

structure Quoting where
  delimiter : Char
  form : Char → Text

namespace Quoting

def quote (quoting : Quoting) (text : Text) : Text :=
  quoting.delimiter :: (text.flatMap quoting.form ++ [quoting.delimiter])

end Quoting

end LexicalScan
