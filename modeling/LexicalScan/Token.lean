import LexicalScan.JsonString
import LexicalScan.Position

/-!
Tokens: classified pieces of a source text. The value of a token is the piece itself, so a string
keeps its quotes. The token that marks the end of the input is no piece of the source, and it alone
has no position.
-/

namespace LexicalScan

inductive Kind where
  | string
  | number
  | operator
  | blank
  | symbol
  | comment
  | punctuation
  | unknown
  | endOfInput
  deriving DecidableEq

namespace Kind

def label : Kind → Text
  | string => "Str".toList
  | number => "Num".toList
  | operator => "Op".toList
  | blank => "Ws".toList
  | symbol => "Sym".toList
  | comment => "Com".toList
  | punctuation => "Pnc".toList
  | unknown => "Unk".toList
  | endOfInput => "End".toList

def maySpanLines : Kind → Bool
  | blank | string => true
  | _ => false

end Kind

structure Token where
  kind : Kind
  value : Text
  position? : Option Position
  deriving DecidableEq

namespace Token

def endOfInput : Token := ⟨.endOfInput, "EOF".toList, none⟩

def isEnd (token : Token) : Bool := token.kind == .endOfInput

def place : Option Position → Text
  | none => []
  | some position =>
    "\t(".toList ++ Text.decimal position.row ++ ", ".toList ++ Text.decimal position.col ++ [')']

def text (token : Token) : Text :=
  token.kind.label ++ ['\t', '['] ++ JsonString.quoting.quote token.value ++ [']'] ++
    place token.position?

end Token

end LexicalScan
