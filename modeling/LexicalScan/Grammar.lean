import LexicalScan.Alphabet
import LexicalScan.Token

/-!
The language of each kind of token: the texts that a token of the kind can be, taken by themselves.
The languages overlap, as with a word of hexadecimal letters, which is both a symbol and a number;
which kind a text gets is settled elsewhere.
-/

namespace LexicalScan.Grammar

def Run (isMember : Char → Bool) (text : Text) : Prop :=
  text ≠ [] ∧ ∀ c ∈ text, isMember c = true

/-- What may stand between two quotes: characters other than the quote and the backslash, and pairs
of a backslash and any character. -/
inductive StringBody (quote : Char) : Text → Prop where
  | empty : StringBody quote []
  | plain {c : Char} {rest : Text} :
      c ≠ quote → c ≠ '\\' → StringBody quote rest → StringBody quote (c :: rest)
  | escaped {c : Char} {rest : Text} :
      StringBody quote rest → StringBody quote ('\\' :: c :: rest)

def RadixMark (text : Text) : Prop :=
  text = [] ∨ ∃ mark, Alphabet.isRadixMark mark = true ∧ text = ['0', mark]

def Fraction (text : Text) : Prop :=
  text = [] ∨ ∃ digits, Run Alphabet.isHexDigit digits ∧ text = '.' :: digits

/-- The texts of a kind. Nothing is in the language of the two kinds that no rule describes. -/
def Language : Kind → Text → Prop
  | .comment, text =>
    ∃ body, (∀ c ∈ body, Alphabet.isLineBreak c = false) ∧ text = '/' :: '/' :: body
  | .punctuation, text => ∃ c, Alphabet.isPunctuation c = true ∧ text = [c]
  | .blank, text => Run Alphabet.isBlank text
  | .operator, text => Run Alphabet.isOperator text
  | .string, text =>
    ∃ quote body, Alphabet.isQuote quote = true ∧ StringBody quote body ∧
      text = quote :: (body ++ [quote])
  | .symbol, text =>
    ∃ first rest, Alphabet.isLetter first = true ∧
      (∀ c ∈ rest, Alphabet.isSymbolPart c = true) ∧ text = first :: rest
  | .number, text =>
    ∃ mark digits fraction, RadixMark mark ∧ Run Alphabet.isHexDigit digits ∧
      Fraction fraction ∧ text = mark ++ digits ++ fraction
  | .unknown, _ => False
  | .endOfInput, _ => False

end LexicalScan.Grammar
