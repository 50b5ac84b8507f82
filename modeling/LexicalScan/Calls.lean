import LexicalScan.Scanner

/-!
Calls that drive a scanner by one item or by many. Each call answers from the items that it takes and
leaves the scanner behind the last of them, so calls of all sorts can follow one another. A call that
finds nothing to take leaves the scanner as it is.
-/

namespace LexicalScan

inductive Call where
  /-- One piece of the source. -/
  | step
  /-- One item of the stream. -/
  | pull
  /-- One item, behind some that are taken and dropped. -/
  | skip (dropped : Nat)
  /-- At most so many items. -/
  | take (limit : Nat)
  /-- All items that are left. -/
  | collect
  | count
  /-- The last item that is left, all of which are taken. -/
  | last
  deriving DecidableEq

inductive Answer where
  | item (token? : Option Token)
  | items (tokens : List Token)
  | number (count : Nat)
  deriving DecidableEq

namespace Scanner

def moved (scanner : Scanner) : Option (Token × Scanner) → Option Token × Scanner
  | none => (none, scanner)
  | some (token, next) => (some token, next)

def skip : Nat → Scanner → Option Token × Scanner
  | 0, scanner => scanner.moved scanner.pull?
  | dropped + 1, scanner =>
    match scanner.pull? with
    | none => (none, scanner)
    | some (_, next) => skip dropped next

def takeBehind : Nat → Scanner → List Token → List Token × Scanner
  | 0, scanner, taken => (taken.reverse, scanner)
  | limit + 1, scanner, taken =>
    match scanner.pull? with
    | none => (taken.reverse, scanner)
    | some (token, next) => takeBehind limit next (token :: taken)

def take (limit : Nat) (scanner : Scanner) : List Token × Scanner :=
  takeBehind limit scanner []

def answer (scanner : Scanner) : Call → Answer × Scanner
  | .step => (scanner.moved scanner.step?).map .item id
  | .pull => (scanner.moved scanner.pull?).map .item id
  | .skip dropped => (scanner.skip dropped).map .item id
  | .take limit => (scanner.take limit).map .items id
  | .collect => scanner.drain.map .items id
  | .count => scanner.drain.map (fun items => .number items.length) id
  | .last => scanner.drain.map (fun items => .item items.getLast?) id

end Scanner

end LexicalScan
