import LexicalScan.Recognition

/-!
The scanner cuts a source into tokens from front to back. It can be driven in two ways. A step takes
one piece of the source and knows nothing of the end token. A pull takes one item of the stream,
which is the pieces of the source and then, once, the end token. Both move the same cursor, but only
a pull ends the stream.

Every step shortens the text that is left, so a stream ends. The order in which the kinds are tried
is an argument of the general functions, and `step?`, `pull?`, `drain` and `tokens` use the fixed
one.
-/

namespace LexicalScan

inductive Phase where
  | scanning
  | exhausted
  deriving DecidableEq

/-- The state of a scan. `rest` is the part of `source` that is not yet cut, and `cursor` is the
place where it begins. -/
structure Scanner where
  source : Text
  rest : Text
  cursor : Position
  phase : Phase
  deriving DecidableEq

namespace Scanner

def ofText (source : Text) : Scanner := ⟨source, source, .start, .scanning⟩

def atEnd (scanner : Scanner) : Bool := scanner.rest.isEmpty

/-- The place behind a piece. Every piece moves the place along its row. Only a piece of a kind that
may span lines is searched for newlines, and if it has one, its last line sets the column anew. -/
def placeBehind (start : Position) (kind : Kind) (value : Text) : Position :=
  let along := start.along value.length
  if kind.maySpanLines && value.contains '\n' then
    ⟨along.row + value.count '\n', (Text.lastLine value).length + 1⟩
  else along

def stepBy? (order : List Kind) (scanner : Scanner) : Option (Token × Scanner) :=
  if scanner.atEnd then none else
    let piece := Recognition.classifyBy order scanner.rest
    let value := scanner.rest.take piece.2
    some
      (⟨piece.1, value, some scanner.cursor⟩,
        { scanner with
          rest := scanner.rest.drop piece.2
          cursor := placeBehind scanner.cursor piece.1 value })

def pullBy? (order : List Kind) (scanner : Scanner) : Option (Token × Scanner) :=
  match scanner.phase with
  | .exhausted => none
  | .scanning =>
    match scanner.stepBy? order with
    | some taken => some taken
    | none => some (Token.endOfInput, { scanner with phase := .exhausted })

def bound (scanner : Scanner) : Nat :=
  match scanner.phase with
  | .exhausted => scanner.rest.length
  | .scanning => scanner.rest.length + 1

theorem stepBy?_rest_lt {order : List Kind} {scanner next : Scanner} {token : Token}
    (taken : scanner.stepBy? order = some (token, next)) :
    next.rest.length < scanner.rest.length := by
  unfold stepBy? at taken
  split at taken
  · cases taken
  · rename_i remaining
    cases taken
    have positive := Recognition.classifyBy_pos order scanner.rest
    have nonempty : scanner.rest ≠ [] := by
      simpa [atEnd] using remaining
    have charactersLeft := List.length_pos_iff.mpr nonempty
    simp only [List.length_drop]
    omega

theorem stepBy?_phase {order : List Kind} {scanner next : Scanner} {token : Token}
    (taken : scanner.stepBy? order = some (token, next)) : next.phase = scanner.phase := by
  unfold stepBy? at taken
  split at taken
  · cases taken
  · cases taken
    rfl

theorem pullBy?_bound_lt {order : List Kind} {scanner next : Scanner} {token : Token}
    (taken : scanner.pullBy? order = some (token, next)) : next.bound < scanner.bound := by
  unfold pullBy? at taken
  split at taken
  · cases taken
  · rename_i scanning
    split at taken
    · rename_i stepped
      cases taken
      have shorter := stepBy?_rest_lt stepped
      have samePhase := stepBy?_phase stepped
      simp only [bound, samePhase, scanning]
      omega
    · cases taken
      simp [bound, scanning]

/-- Takes every item that is left, behind those already taken, which are given last item first. -/
def drainBehind (order : List Kind) (scanner : Scanner) (taken : List Token) :
    List Token × Scanner :=
  match _ : scanner.pullBy? order with
  | none => (taken.reverse, scanner)
  | some (token, next) => drainBehind order next (token :: taken)
termination_by scanner.bound
decreasing_by exact pullBy?_bound_lt (by assumption)

def drainBy (order : List Kind) (scanner : Scanner) : List Token × Scanner :=
  drainBehind order scanner []

def step? (scanner : Scanner) : Option (Token × Scanner) :=
  scanner.stepBy? Recognition.precedence

def pull? (scanner : Scanner) : Option (Token × Scanner) :=
  scanner.pullBy? Recognition.precedence

def drain (scanner : Scanner) : List Token × Scanner :=
  scanner.drainBy Recognition.precedence

end Scanner

def tokensBy (order : List Kind) (source : Text) : List Token :=
  ((Scanner.ofText source).drainBy order).1

def tokens (source : Text) : List Token := tokensBy Recognition.precedence source

end LexicalScan
