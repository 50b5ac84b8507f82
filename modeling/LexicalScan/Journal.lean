import LexicalScan.Scanner

/-!
The journal of a scan: a note that the scan begins, one for each piece that is cut, and one that the
stream has ended. Every note is made at the moment of which it tells, from the state of the scanner
at that moment.
-/

namespace LexicalScan

inductive Note where
  /-- A scan begins over a source of so many bytes. -/
  | begun (bytes : Nat)
  | cut (token : Token)
  /-- The stream ended with the cursor at the position. -/
  | ended (position : Position)
  deriving DecidableEq

namespace Note

def text : Note → Text
  | begun bytes => "DEBUG lexer created over ".toList ++ Text.decimal bytes ++ " bytes".toList
  | cut token => "TRACE ".toList ++ token.text
  | ended position => "DEBUG lexer exhausted at ".toList ++ position.text

end Note

namespace Scanner

def pullNote? (scanner : Scanner) : Option Note :=
  match scanner.phase with
  | .exhausted => none
  | .scanning =>
    match scanner.step? with
    | some (token, _) => some (.cut token)
    | none => some (.ended scanner.cursor)

def recordBehind (scanner : Scanner) (taken : List Token) (notes : List Note) :
    List Token × List Note :=
  match _ : scanner.pull? with
  | none => (taken.reverse, notes.reverse)
  | some (token, next) =>
    recordBehind next (token :: taken) (scanner.pullNote?.toList ++ notes)
termination_by scanner.bound
decreasing_by exact pullBy?_bound_lt (by assumption)

end Scanner

def record (source : Text) : List Token × List Note :=
  (Scanner.ofText source).recordBehind [] [.begun (Text.byteCount source)]

end LexicalScan
