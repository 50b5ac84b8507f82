import LexicalScan.Diagnostic
import LexicalScan.Scanner

/-!
Strict reading refuses a source with an unknown piece. It stops at the first one, which it reports,
and cuts no further.
-/

namespace LexicalScan

namespace Scanner

def complaint? (file? : Option Text) (token : Token) : Option Diagnostic :=
  if token.kind = .unknown then
    token.position?.map (Diagnostic.inFile file? (Cause.ofUnknown token.value))
  else none

def checkBehind (file? : Option Text) (scanner : Scanner) (taken : List Token) :
    Except Diagnostic (List Token) :=
  match _ : scanner.pull? with
  | none => .ok taken.reverse
  | some (token, next) =>
    match complaint? file? token with
    | some diagnostic => .error diagnostic
    | none => checkBehind file? next (token :: taken)
termination_by scanner.bound
decreasing_by exact pullBy?_bound_lt (by assumption)

end Scanner

def strictTokens (source : Text) (file? : Option Text) : Except Diagnostic (List Token) :=
  (Scanner.ofText source).checkBehind file? []

end LexicalScan
