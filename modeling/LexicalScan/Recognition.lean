import LexicalScan.Alphabet
import LexicalScan.Token

/-!
Recognition of the piece at the front of a text. Each kind has a rule that measures the piece of the
kind, if there is one. The kinds are tried in a fixed order and the first rule that applies wins; a
character that no rule takes is a piece of one unknown character.
-/

namespace LexicalScan.Recognition

def runLength (isMember : Char → Bool) (text : Text) : Nat := (text.takeWhile isMember).length

def run? (isMember : Char → Bool) (text : Text) : Option Nat :=
  match runLength isMember text with
  | 0 => none
  | length + 1 => some (length + 1)

def comment? : Text → Option Nat
  | '/' :: '/' :: rest => some (2 + runLength (fun c => !Alphabet.isLineBreak c) rest)
  | _ => none

def punctuation? : Text → Option Nat
  | [] => none
  | c :: _ => if Alphabet.isPunctuation c then some 1 else none

/-- The length of a string of which `length` characters are read, if it is ever closed. A backslash
takes the character behind it along, whatever it is. -/
def closing? (quote : Char) : Text → Nat → Option Nat
  | [], _ => none
  | ['\\'], _ => none
  | '\\' :: _ :: rest, length => closing? quote rest (length + 2)
  | c :: rest, length =>
    if c = quote then some (length + 1) else closing? quote rest (length + 1)

def string? : Text → Option Nat
  | [] => none
  | c :: rest => if Alphabet.isQuote c then closing? c rest 1 else none

def symbol? : Text → Option Nat
  | [] => none
  | c :: rest =>
    if Alphabet.isLetter c then some (1 + runLength Alphabet.isSymbolPart rest) else none

def radixMarkLength : Text → Nat
  | '0' :: mark :: digit :: _ =>
    if Alphabet.isRadixMark mark && Alphabet.isHexDigit digit then 2 else 0
  | _ => 0

def fractionLength : Text → Nat
  | '.' :: rest =>
    match runLength Alphabet.isHexDigit rest with
    | 0 => 0
    | length + 1 => length + 2
  | _ => 0

def number? (text : Text) : Option Nat :=
  let mark := radixMarkLength text
  match runLength Alphabet.isHexDigit (text.drop mark) with
  | 0 => none
  | length + 1 =>
    let whole := mark + (length + 1)
    some (whole + fractionLength (text.drop whole))

def length? : Kind → Text → Option Nat
  | .comment => comment?
  | .punctuation => punctuation?
  | .blank => run? Alphabet.isBlank
  | .operator => run? Alphabet.isOperator
  | .string => string?
  | .symbol => symbol?
  | .number => number?
  | .unknown => fun _ => none
  | .endOfInput => fun _ => none

/-- The order in which the kinds are tried. A comment goes before an operator, since both may begin
with a slash, and a symbol before a number, since both may begin with a letter. -/
def precedence : List Kind :=
  [.comment, .punctuation, .blank, .operator, .string, .symbol, .number]

def classifyBy (order : List Kind) (text : Text) : Kind × Nat :=
  (order.findSome? fun kind => (length? kind text).map (kind, ·)).getD (.unknown, 1)

def classify (text : Text) : Kind × Nat := classifyBy precedence text

theorem run?_pos {isMember : Char → Bool} {text : Text} {length : Nat}
    (found : run? isMember text = some length) : 0 < length := by
  unfold run? at found
  split at found
  · cases found
  · cases found
    omega

theorem closing?_gt {quote : Char} {text : Text} {before length : Nat}
    (found : closing? quote text before = some length) : before < length := by
  fun_induction closing? quote text before with
  | case1 => cases found
  | case2 => cases found
  | case3 _ _ _ ih => exact Nat.lt_trans (by omega) (ih found)
  | case4 =>
    cases found
    omega
  | case5 _ _ _ _ _ _ ih => exact Nat.lt_trans (by omega) (ih found)

theorem string?_pos {text : Text} {length : Nat} (found : string? text = some length) :
    0 < length := by
  unfold string? at found
  split at found
  · cases found
  · split at found
    · exact Nat.lt_trans Nat.zero_lt_one (closing?_gt found)
    · cases found

theorem number?_pos {text : Text} {length : Nat} (found : number? text = some length) :
    0 < length := by
  unfold number? at found
  simp only at found
  split at found
  · cases found
  · cases found
    omega

theorem length?_pos {kind : Kind} {text : Text} {length : Nat}
    (found : length? kind text = some length) : 0 < length := by
  cases kind with
  | string => exact string?_pos found
  | number => exact number?_pos found
  | operator => exact run?_pos found
  | blank => exact run?_pos found
  | symbol =>
    simp only [length?, symbol?] at found
    grind
  | comment =>
    simp only [length?, comment?] at found
    grind
  | punctuation =>
    simp only [length?, punctuation?] at found
    grind
  | unknown => cases found
  | endOfInput => cases found

theorem classifyBy_pos (order : List Kind) (text : Text) : 0 < (classifyBy order text).2 := by
  unfold classifyBy
  cases found : order.findSome? fun kind => (length? kind text).map (kind, ·) with
  | none => exact Nat.zero_lt_one
  | some piece =>
    obtain ⟨kind, _, same⟩ := List.exists_of_findSome?_eq_some found
    obtain ⟨length, measured, rfl⟩ := Option.map_eq_some_iff.mp same
    exact length?_pos measured

end LexicalScan.Recognition
