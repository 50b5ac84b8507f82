import LexicalScan.Drawing
import LexicalScan.Files
import LexicalScan.Strict

/-!
The command line. A run takes a flag for strict reading and the path of one file, or a text of its
own where no path is given, and writes the tokens of the source one to a line. A run that fails
writes its complaint and no token.
-/

namespace LexicalScan

structure Invocation where
  strict : Bool
  path? : Option Text
  deriving DecidableEq

namespace Invocation

def strictFlag : Text := "--strict".toList

/-- What further arguments add to an invocation. The flag may stand anywhere and any number of
times; there is no answer where a second path is given. -/
def extend? (invocation : Invocation) : List Text → Option Invocation
  | [] => some invocation
  | argument :: rest =>
    if argument = strictFlag then { invocation with strict := true }.extend? rest
    else
      match invocation.path? with
      | some _ => none
      | none => { invocation with path? := some argument }.extend? rest

def ofArguments? (arguments : List Text) : Option Invocation :=
  (⟨false, none⟩ : Invocation).extend? arguments

end Invocation

structure Input where
  source : Text
  name : Text
  deriving DecidableEq

namespace Input

def demo : Input :=
  ⟨"aushf32342 9f23 <t> 239042n @*(#&$*( )(*)(&@*(#&\x7b\x7d@#\x7d\x7b:".toList,
    Diagnostic.unnamedFile⟩

def fileName (path : Text) : Text := (path.splitOn '/').getLast?.getD path

def ofPath (read : Text → Except ReadFailure Text) (path : Text) : Except Text Input :=
  match read path with
  | .ok source => .ok ⟨source, fileName path⟩
  | .error failure =>
    .error ("Failed to read ".toList ++ path ++ ": ".toList ++ failure.message ++ ['\n'])

end Input

structure Outcome where
  exitCode : Nat
  output : Text
  complaint : Text
  deriving DecidableEq

namespace CommandLine

def usage : Text := "usage: tokenizer [--strict] [FILE]\n".toList

def success (output : Text) : Outcome := ⟨0, output, []⟩

def failure (exitCode : Nat) (complaint : Text) : Outcome := ⟨exitCode, [], complaint⟩

def listing (tokens : List Token) : Text := tokens.flatMap fun token => token.text ++ ['\n']

def scan (strict : Bool) (input : Input) : Except WidthFault Outcome :=
  if strict then
    match strictTokens input.source (some input.name) with
    | .ok tokens => .ok (success (listing tokens))
    | .error diagnostic => (diagnostic.draw input.source).map (failure 1)
  else .ok (success (listing (tokens input.source)))

/-- The outcome of a run with the given arguments, where `read` gives the text of a file. The
arguments are judged before anything is read. -/
def run (read : Text → Except ReadFailure Text) (arguments : List Text) :
    Except WidthFault Outcome :=
  match Invocation.ofArguments? arguments with
  | none => .ok (failure 2 usage)
  | some invocation =>
    match invocation.path? with
    | none => scan invocation.strict Input.demo
    | some path =>
      match Input.ofPath read path with
      | .error complaint => .ok (failure 1 complaint)
      | .ok input => scan invocation.strict input

end CommandLine

end LexicalScan
