import LexicalScan.CommandLine

/-!
The program: it reads the file that its arguments name, and writes what the run leaves behind.
-/

namespace LexicalScan.Program

/-- The number of a system error, which may be reported with either sign. -/
def errorNumber (code : UInt32) : UInt32 := if code < 0 - code then code else 0 - code

def failureOf : IO.Error → ReadFailure
  | .noFileOrDirectory _ _ _ => .notFound
  | .inappropriateType _ code message =>
    if errorNumber code = 20 then .notDirectory
    else if errorNumber code = 21 then .isDirectory
    else .device message.toList
  | .invalidArgument _ code message =>
    if errorNumber code = 36 then .nameTooLong else .device message.toList
  | other => .device other.toString.toList

def readFile (path : Text) : IO (Except ReadFailure Text) := do
  try
    return decodeText (← IO.FS.readBinFile (String.ofList path))
  catch error => return .error (failureOf error)

def readNamed (arguments : List Text) : IO (Except ReadFailure Text) :=
  match (Invocation.ofArguments? arguments).bind Invocation.path? with
  | none => return .error .notFound
  | some path => readFile path

def faultCode : UInt32 := 101

end LexicalScan.Program

open LexicalScan in
def main (arguments : List String) : IO UInt32 := do
  let arguments := arguments.map String.toList
  let content ← Program.readNamed arguments
  match CommandLine.run (fun _ => content) arguments with
  | .error fault =>
    (← IO.getStderr).putStrLn (String.ofList fault.message)
    return Program.faultCode
  | .ok outcome =>
    (← IO.getStdout).putStr (String.ofList outcome.output)
    (← IO.getStderr).putStr (String.ofList outcome.complaint)
    return outcome.exitCode.toUInt32
