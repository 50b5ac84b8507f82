import LexicalScan.Alphabet
import LexicalScan.Token

/-!
Patterns over characters, and the pattern of each kind of token. A pattern that offers choices
prefers the earlier one, and a repetition prefers to go on. Where the remainder of a pattern fails,
matching goes back to the last choice, so the matches at the front of a text stand in an order, and
the first of them is the match.
-/

namespace LexicalScan

inductive Pattern where
  | nothing
  | one (isMember : Char → Bool)
  | both (first second : Pattern)
  | either (preferred other : Pattern)
  /-- Any number of turns, rather more than fewer. -/
  | many (turn : Pattern)

namespace Pattern

def char (c : Char) : Pattern := one (· == c)

def atLeastOne (turn : Pattern) : Pattern := both turn (many turn)

def optional (pattern : Pattern) : Pattern := either pattern nothing

/-- The lengths of all matches at the front of a text, the preferred ones first. A turn of a
repetition has to take something. -/
def lengths : Pattern → Text → List Nat
  | nothing, _ => [0]
  | one _, [] => []
  | one isMember, c :: _ => if isMember c then [1] else []
  | both first second, text =>
    (lengths first text).flatMap fun taken => (lengths second (text.drop taken)).map (taken + ·)
  | either preferred other, text => lengths preferred text ++ lengths other text
  | many turn, text =>
    (lengths turn text).flatMap (fun taken =>
      if _ : 0 < taken ∧ taken ≤ text.length then
        (lengths (many turn) (text.drop taken)).map (taken + ·)
      else []) ++ [0]
termination_by pattern text => (pattern, text.length)

/-- The length of the match at the front of a text. A match of nothing counts as none. -/
def length? (pattern : Pattern) (text : Text) : Option Nat :=
  (pattern.lengths text).head?.filter (0 < ·)

def bodyTurn (quote : Char) : Pattern :=
  either (one fun c => c != quote && c != '\\') (both (char '\\') (one fun _ => true))

def body (quote : Char) : Pattern := both (many (bodyTurn quote)) (char quote)

def quotedBy (quote : Char) : Pattern := both (char quote) (body quote)

def mark : Pattern := optional (both (char '0') (one Alphabet.isRadixMark))

def digits : Pattern := atLeastOne (one Alphabet.isHexDigit)

def fraction : Pattern := optional (both (char '.') digits)

def table : List (Kind × Pattern) :=
  [(.comment, both (char '/') (both (char '/') (many (one fun c => !Alphabet.isLineBreak c)))),
    (.punctuation, one Alphabet.isPunctuation),
    (.blank, atLeastOne (one Alphabet.isBlank)),
    (.operator, atLeastOne (one Alphabet.isOperator)),
    (.string, either (quotedBy '"') (quotedBy '\'')),
    (.symbol, both (one Alphabet.isLetter) (many (one Alphabet.isSymbolPart))),
    (.number, both mark (both digits fraction))]

def firstMatch (table : List (Kind × Pattern)) (text : Text) : Kind × Nat :=
  (table.findSome? fun entry => (entry.2.length? text).map (entry.1, ·)).getD (.unknown, 1)

end Pattern

end LexicalScan
