import LexicalScan.Alphabet
import LexicalScan.MessageQuote
import LexicalScan.Position

/-!
What can be wrong with a source, where, and how it is told.
-/

namespace LexicalScan

inductive Cause where
  /-- A piece that no rule describes. -/
  | unrecognised (token : Text)
  /-- A quote that opens a string which is never closed. -/
  | unterminated (quote : Char)
  deriving DecidableEq

namespace Cause

def name : Cause → Text
  | unrecognised _ => "UnrecognisedToken".toList
  | unterminated _ => "UnterminatedString".toList

def text : Cause → Text
  | unrecognised token =>
    "unrecognised token: ".toList ++ (MessageQuote.quoting '"').quote token
  | unterminated quote =>
    "unterminated string starting with ".toList ++ (MessageQuote.quoting '\'').quote [quote]

def tip? : Cause → Option Text
  | unrecognised _ => none
  | unterminated quote =>
    some ("String opened with \x60".toList ++ [quote] ++
      "\x60 is never closed, is a quote escaped by mistake?".toList)

/-- What is wrong with an unknown piece. A quote is unknown only if nothing closes it. -/
def ofUnknown : Text → Cause
  | [] => unrecognised []
  | first :: rest =>
    if Alphabet.isQuote first then unterminated first else unrecognised (first :: rest)

end Cause

structure Diagnostic where
  cause : Cause
  position : Position
  file : Text
  deriving DecidableEq

namespace Diagnostic

def unnamedFile : Text := "shell".toList

def inFile (file? : Option Text) (cause : Cause) (position : Position) : Diagnostic :=
  ⟨cause, position, file?.getD unnamedFile⟩

def text (diagnostic : Diagnostic) : Text :=
  diagnostic.cause.text ++ " at ".toList ++ diagnostic.file ++ [':'] ++ diagnostic.position.text

end Diagnostic

end LexicalScan
