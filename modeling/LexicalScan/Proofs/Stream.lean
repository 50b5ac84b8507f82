import LexicalScan.Calls
import LexicalScan.Proofs.Policy

/-!
The items that a scanner still has to give, as one list. A pull takes the head of the list, and the
list ends with the end token, which stands in it once until the stream is exhausted. What holds of
every scanner that gives nothing more, and of a scanner as soon as it holds behind a pull, holds of
all scanners.
-/

namespace LexicalScan.Scanner

open Recognition

theorem pull_induction {motive : Scanner → Prop} (order : List Kind)
    (stopped : ∀ scanner : Scanner, scanner.pullBy? order = none → motive scanner)
    (pulled : ∀ (scanner next : Scanner) (token : Token),
      scanner.pullBy? order = some (token, next) → motive next → motive scanner)
    (scanner : Scanner) : motive scanner := by
  -- Every pull lowers the bound on the items to come.
  induction size : scanner.bound using Nat.strongRecOn generalizing scanner with
  | ind bound ih =>
      subst size
      cases taken : scanner.pullBy? order with
      | none => exact stopped scanner taken
      | some found =>
          apply pulled scanner found.2 found.1 taken
          exact ih _ (pullBy?_bound_lt taken) found.2 rfl

theorem drainBehind_none (order : List Kind) (scanner : Scanner) (taken : List Token)
    (stopped : scanner.pullBy? order = none) :
    scanner.drainBehind order taken = (taken.reverse, scanner) := by
  rw [drainBehind]
  split
  · rfl
  · rename_i pulled
    rw [stopped] at pulled
    cases pulled

theorem drainBehind_some (order : List Kind) (scanner next : Scanner) (token : Token)
    (taken : List Token) (pulled : scanner.pullBy? order = some (token, next)) :
    scanner.drainBehind order taken = next.drainBehind order (token :: taken) := by
  rw [drainBehind]
  split
  · rename_i stopped
    rw [pulled] at stopped
    cases stopped
  · rename_i same
    rw [pulled] at same
    cases same
    rfl

theorem drainBehind_eq (order : List Kind) (scanner : Scanner) :
    ∀ taken, scanner.drainBehind order taken =
      (taken.reverse ++ (scanner.drainBy order).1, (scanner.drainBy order).2) := by
  -- The items given are generalised, since each pull puts one more in front.
  induction scanner using pull_induction order with
  | stopped scanner stopped =>
      intro taken
      rw [drainBy, drainBehind_none order scanner taken stopped,
        drainBehind_none order scanner [] stopped]
      simp
  | pulled scanner next token pulled ih =>
      intro taken
      rw [drainBy, drainBehind_some order scanner next token taken pulled,
        drainBehind_some order scanner next token [] pulled, ih, ih]
      simp

theorem drainBy_none (order : List Kind) (scanner : Scanner)
    (stopped : scanner.pullBy? order = none) : scanner.drainBy order = ([], scanner) :=
  drainBehind_none order scanner [] stopped

theorem drainBy_some (order : List Kind) (scanner next : Scanner) (token : Token)
    (pulled : scanner.pullBy? order = some (token, next)) :
    scanner.drainBy order = (token :: (next.drainBy order).1, (next.drainBy order).2) := by
  rw [drainBy, drainBehind_some order scanner next token [] pulled, drainBehind_eq]
  rfl

def items (scanner : Scanner) : List Token := scanner.drain.1

theorem items_none (scanner : Scanner) (stopped : scanner.pull? = none) : scanner.items = [] := by
  rw [items, drain, drainBy_none _ scanner stopped]

theorem items_some (scanner next : Scanner) (token : Token)
    (pulled : scanner.pull? = some (token, next)) : scanner.items = token :: next.items := by
  rw [items, drain, drainBy_some _ scanner next token pulled]
  rfl

theorem drain_stopped (scanner : Scanner) : scanner.drain.2.pull? = none := by
  induction scanner using pull_induction precedence with
  | stopped scanner stopped =>
      rw [drain, drainBy_none _ scanner stopped]
      exact stopped
  | pulled scanner next token pulled ih =>
      rw [drain, drainBy_some _ scanner next token pulled]
      exact ih

/-! What a pull does in each phase -/

theorem pull?_exhausted (scanner : Scanner) (exhausted : scanner.phase = .exhausted) :
    scanner.pull? = none := by
  rw [pull?, pullBy?, exhausted]

theorem pull?_scanning (scanner : Scanner) (scanning : scanner.phase = .scanning) :
    scanner.pull? = some (scanner.step?.getD
      (Token.endOfInput, { scanner with phase := .exhausted })) := by
  rw [pull?, pullBy?, scanning, step?]
  cases scanner.stepBy? precedence <;> rfl

theorem step?_atEnd (scanner : Scanner) (used : scanner.rest = []) : scanner.step? = none := by
  rw [step?, stepBy?, atEnd, used]
  rfl

theorem step?_eq_none_iff (scanner : Scanner) : scanner.step? = none ↔ scanner.rest = [] := by
  constructor
  · intro stopped
    by_cases remains : scanner.rest = []
    · exact remains
    · rw [step?, stepBy?_of_remains precedence scanner remains] at stopped
      cases stopped
  · exact step?_atEnd scanner

theorem pull?_eq_none_iff (scanner : Scanner) :
    scanner.pull? = none ↔ scanner.phase = .exhausted := by
  constructor
  · intro stopped
    cases phase : scanner.phase with
    | exhausted => rfl
    | scanning =>
        rw [pull?_scanning scanner phase] at stopped
        cases stopped
  · exact pull?_exhausted scanner

theorem classifyBy_kind (order : List Kind) (text : Text) :
    (classifyBy order text).1 ≠ .endOfInput := by
  rcases classifyBy_cases order text with ⟨fallback, _⟩ | ⟨kind, length, _, found, taken⟩
  · rw [fallback]
    exact Kind.noConfusion
  · rw [taken]
    rintro rfl
    cases found

structure Stepped (scanner next : Scanner) (token : Token) : Prop where
  rest : scanner.rest = token.value ++ next.rest
  classified : classify scanner.rest = (token.kind, token.value.length)
  place : token.position? = some scanner.cursor
  cursor : next.cursor = placeBehind scanner.cursor token.kind token.value
  source : next.source = scanner.source
  phase : next.phase = scanner.phase

theorem step?_stepped (scanner next : Scanner) (token : Token)
    (stepped : scanner.step? = some (token, next)) : Stepped scanner next token := by
  have remains : scanner.rest ≠ [] := by
    intro used
    rw [step?_atEnd scanner used] at stepped
    cases stepped
  have measured := List.length_take_of_le (classifyBy_le precedence scanner.rest remains)
  rw [step?, stepBy?_of_remains precedence scanner remains] at stepped
  cases stepped
  exact ⟨(List.take_append_drop _ _).symm, Prod.ext rfl measured.symm, rfl, rfl, rfl, rfl⟩

theorem Stepped.nonempty {scanner next : Scanner} {token : Token}
    (stepped : Stepped scanner next token) : token.value ≠ [] := by
  have positive := classifyBy_pos precedence scanner.rest
  rw [← classify, stepped.classified] at positive
  exact List.length_pos_iff.mp positive

theorem Stepped.notEnd {scanner next : Scanner} {token : Token}
    (stepped : Stepped scanner next token) : token.kind ≠ .endOfInput := by
  have kind := classifyBy_kind precedence scanner.rest
  rw [← classify, stepped.classified] at kind
  exact kind

theorem Stepped.isEnd {scanner next : Scanner} {token : Token}
    (stepped : Stepped scanner next token) : token.isEnd = false := by
  simp [Token.isEnd, stepped.notEnd]

def Settled (scanner : Scanner) : Prop := scanner.phase = .exhausted → scanner.rest = []

theorem settled_ofText (source : Text) : Settled (ofText source) := by
  intro exhausted
  cases exhausted

theorem settled_scanning (scanner next : Scanner) (token : Token) (settled : Settled scanner)
    (stepped : scanner.step? = some (token, next)) : scanner.phase = .scanning := by
  cases phase : scanner.phase with
  | scanning => rfl
  | exhausted =>
      rw [step?_atEnd scanner (settled phase)] at stepped
      cases stepped

theorem settled_step (scanner next : Scanner) (token : Token) (settled : Settled scanner)
    (stepped : scanner.step? = some (token, next)) : Settled next := by
  intro exhausted
  rw [(step?_stepped scanner next token stepped).phase,
    settled_scanning scanner next token settled stepped] at exhausted
  cases exhausted

theorem items_exhausted (scanner : Scanner) (exhausted : scanner.phase = .exhausted) :
    scanner.items = [] :=
  items_none scanner (pull?_exhausted scanner exhausted)

theorem pull?_step (scanner next : Scanner) (token : Token) (scanning : scanner.phase = .scanning)
    (stepped : scanner.step? = some (token, next)) : scanner.pull? = some (token, next) := by
  rw [pull?_scanning scanner scanning, stepped]
  rfl

theorem pull?_end (scanner : Scanner) (scanning : scanner.phase = .scanning)
    (used : scanner.rest = []) :
    scanner.pull? = some (Token.endOfInput, { scanner with phase := .exhausted }) := by
  rw [pull?_scanning scanner scanning, step?_atEnd scanner used]
  rfl

theorem items_end (scanner : Scanner) (scanning : scanner.phase = .scanning)
    (used : scanner.rest = []) : scanner.items = [Token.endOfInput] := by
  rw [items_some scanner _ _ (pull?_end scanner scanning used), items_exhausted _ rfl]

/-- A pull is a step, or at the end of the text it takes the end token once. -/
theorem pull?_cases (scanner next : Scanner) (token : Token)
    (pulled : scanner.pull? = some (token, next)) :
    scanner.phase = .scanning ∧
      (scanner.step? = some (token, next) ∨
        scanner.rest = [] ∧ token = Token.endOfInput ∧
          next = { scanner with phase := .exhausted }) := by
  have scanning : scanner.phase = .scanning := by
    cases phase : scanner.phase with
    | scanning => rfl
    | exhausted =>
        rw [pull?_exhausted scanner phase] at pulled
        cases pulled
  refine ⟨scanning, ?_⟩
  rw [pull?_scanning scanner scanning] at pulled
  cases stepped : scanner.step? with
  | none =>
      rw [stepped] at pulled
      cases pulled
      exact Or.inr ⟨(step?_eq_none_iff scanner).mp stepped, rfl, rfl⟩
  | some found =>
      rw [stepped] at pulled
      exact Or.inl pulled

theorem settled_pull (scanner next : Scanner) (token : Token) (settled : Settled scanner)
    (pulled : scanner.pull? = some (token, next)) : Settled next := by
  obtain ⟨_, stepped | ⟨used, _, rfl⟩⟩ := pull?_cases scanner next token pulled
  · exact settled_step scanner next token settled stepped
  · intro _
    exact used

/-- The end token is still to come exactly once, until the stream is exhausted. -/
theorem count_end_items (scanner : Scanner) :
    scanner.items.countP Token.isEnd = if scanner.phase = .scanning then 1 else 0 := by
  induction scanner using pull_induction precedence with
  | stopped scanner stopped =>
      rw [items_none scanner stopped, (pull?_eq_none_iff scanner).mp stopped]
      rfl
  | pulled scanner next token pulled ih =>
      rw [items_some scanner next token pulled, List.countP_cons, ih]
      obtain ⟨scanning, stepped | ⟨_, rfl, rfl⟩⟩ := pull?_cases scanner next token pulled
      · have facts := step?_stepped scanner next token stepped
        simp [facts.phase, scanning, Token.isEnd, facts.notEnd]
      · rw [scanning]
        rfl

end LexicalScan.Scanner
