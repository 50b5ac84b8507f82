import LexicalScan.Proofs.Stream

/-!
Calls of all sorts against one list. What a call takes and what it answers is said of the list of the
items that are left, without a scanner. A scanner that is driven by any calls in any order answers as
that list does, so its items are taken in the order of the stream and none is lost or given twice.
-/

namespace LexicalScan

namespace Call

/-- The items that a call takes off those that are left. A step leaves the end token. -/
def taken (left : List Token) : Call → List Token
  | step => (left.take 1).filter fun token => !token.isEnd
  | pull => left.take 1
  | skip dropped => left.take (dropped + 1)
  | take limit => left.take limit
  | collect | count | last => left

def reply (left : List Token) : Call → Answer
  | step => .item (left.head?.filter fun token => !token.isEnd)
  | pull => .item left.head?
  | skip dropped => .item left[dropped]?
  | take limit => .items (left.take limit)
  | collect => .items left
  | count => .number left.length
  | last => .item left.getLast?

def replies : List Token → List Call → List Answer
  | _, [] => []
  | left, call :: later =>
    call.reply left :: replies (left.drop (call.taken left).length) later

def allTaken : List Token → List Call → List Token
  | _, [] => []
  | left, call :: later =>
    call.taken left ++ allTaken (left.drop (call.taken left).length) later

end Call

namespace Scanner

def perform : Scanner → List Call → List Answer × Scanner
  | scanner, [] => ([], scanner)
  | scanner, call :: later =>
    let served := scanner.answer call
    let rest := perform served.2 later
    (served.1 :: rest.1, rest.2)

/-! What holds of a scanner behind every step and every pull holds of it behind every call. -/
section Keeping

variable {keeps : Scanner → Prop}

theorem skip_keeps (pulls : ∀ scanner next token, keeps scanner →
      scanner.pull? = some (token, next) → keeps next)
    (dropped : Nat) (scanner : Scanner) (kept : keeps scanner) :
    keeps (scanner.skip dropped).2 := by
  induction dropped generalizing scanner with
  | zero =>
      rw [skip]
      cases pulled : scanner.pull? with
      | none => exact kept
      | some found => exact pulls scanner found.2 found.1 kept pulled
  | succ dropped ih =>
      rw [skip]
      cases pulled : scanner.pull? with
      | none => exact kept
      | some found => exact ih found.2 (pulls scanner found.2 found.1 kept pulled)

theorem takeBehind_keeps (pulls : ∀ scanner next token, keeps scanner →
      scanner.pull? = some (token, next) → keeps next)
    (limit : Nat) (scanner : Scanner) (before : List Token) (kept : keeps scanner) :
    keeps (takeBehind limit scanner before).2 := by
  induction limit generalizing scanner before with
  | zero => exact kept
  | succ limit ih =>
      rw [takeBehind]
      cases pulled : scanner.pull? with
      | none => exact kept
      | some found => exact ih found.2 _ (pulls scanner found.2 found.1 kept pulled)

theorem drain_keeps (pulls : ∀ scanner next token, keeps scanner →
      scanner.pull? = some (token, next) → keeps next)
    (scanner : Scanner) (kept : keeps scanner) : keeps scanner.drain.2 := by
  induction scanner using pull_induction Recognition.precedence with
  | stopped scanner stopped =>
      rw [drain, drainBy_none _ scanner stopped]
      exact kept
  | pulled scanner next token pulled ih =>
      rw [drain, drainBy_some _ scanner next token pulled]
      exact ih (pulls scanner next token kept pulled)

theorem answer_keeps
    (steps : ∀ scanner next token, keeps scanner →
      scanner.step? = some (token, next) → keeps next)
    (pulls : ∀ scanner next token, keeps scanner →
      scanner.pull? = some (token, next) → keeps next)
    (scanner : Scanner) (kept : keeps scanner) (call : Call) :
    keeps (scanner.answer call).2 := by
  cases call with
  | step =>
      rw [answer]
      cases stepped : scanner.step? with
      | none => exact kept
      | some found => exact steps scanner found.2 found.1 kept stepped
  | pull =>
      rw [answer]
      cases pulled : scanner.pull? with
      | none => exact kept
      | some found => exact pulls scanner found.2 found.1 kept pulled
  | skip dropped => exact skip_keeps pulls dropped scanner kept
  | take limit => exact takeBehind_keeps pulls limit scanner [] kept
  | collect | count | last => exact drain_keeps pulls scanner kept

theorem perform_keeps
    (steps : ∀ scanner next token, keeps scanner →
      scanner.step? = some (token, next) → keeps next)
    (pulls : ∀ scanner next token, keeps scanner →
      scanner.pull? = some (token, next) → keeps next)
    (scanner : Scanner) (kept : keeps scanner) (calls : List Call) :
    keeps (scanner.perform calls).2 := by
  induction calls generalizing scanner with
  | nil => exact kept
  | cons call later ih => exact ih _ (answer_keeps steps pulls scanner kept call)

end Keeping

structure Served (scanner : Scanner) (call : Call) (given : Answer) (next : Scanner) : Prop where
  reply : given = call.reply scanner.items
  taken : scanner.items = call.taken scanner.items ++ next.items

theorem step_served (scanner : Scanner) (settled : Settled scanner) :
    Served scanner .step (scanner.answer .step).1 (scanner.answer .step).2 := by
  rw [answer]
  cases stepped : scanner.step? with
  | some found =>
      obtain ⟨token, next⟩ := found
      have facts := step?_stepped scanner next token stepped
      have scanning := settled_scanning scanner next token settled stepped
      have left := items_some scanner next token (pull?_step scanner next token scanning stepped)
      have notEnd := facts.isEnd
      constructor
      · simp [moved, Call.reply, left, notEnd, Option.filter]
      · simp [moved, Call.taken, left, notEnd]
  | none =>
      have used := (step?_eq_none_iff scanner).mp stepped
      cases phase : scanner.phase with
      | exhausted =>
          have left := items_exhausted scanner phase
          constructor <;> simp [moved, Call.reply, Call.taken, left]
      | scanning =>
          have left := items_end scanner phase used
          have isEnd : Token.endOfInput.isEnd = true := rfl
          constructor <;> simp [moved, Call.reply, Call.taken, left, isEnd, Option.filter]

theorem pull_served (scanner : Scanner) :
    Served scanner .pull (scanner.answer .pull).1 (scanner.answer .pull).2 := by
  rw [answer]
  cases pulled : scanner.pull? with
  | none =>
      have left := items_none scanner pulled
      constructor <;> simp [moved, Call.reply, Call.taken, left]
  | some found =>
      have left := items_some scanner found.2 found.1 pulled
      constructor <;> simp [moved, Call.reply, Call.taken, left]

theorem skip_exact (dropped : Nat) (scanner : Scanner) :
    (scanner.skip dropped).1 = scanner.items[dropped]? ∧
      scanner.items = scanner.items.take (dropped + 1) ++ (scanner.skip dropped).2.items := by
  induction dropped generalizing scanner with
  | zero =>
      rw [skip]
      cases pulled : scanner.pull? with
      | none => simp [moved, items_none scanner pulled]
      | some found => simp [moved, items_some scanner found.2 found.1 pulled]
  | succ dropped ih =>
      rw [skip]
      cases pulled : scanner.pull? with
      | none => simp [items_none scanner pulled]
      | some found =>
          have left := items_some scanner found.2 found.1 pulled
          obtain ⟨reply, taken⟩ := ih found.2
          constructor
          · rw [left, List.getElem?_cons_succ]
            exact reply
          · rw [left, List.take_succ_cons, List.cons_append]
            exact congrArg (found.1 :: ·) taken

theorem takeBehind_exact (limit : Nat) (scanner : Scanner) (before : List Token) :
    (takeBehind limit scanner before).1 = before.reverse ++ scanner.items.take limit ∧
      scanner.items = scanner.items.take limit ++ (takeBehind limit scanner before).2.items := by
  induction limit generalizing scanner before with
  | zero => simp [takeBehind]
  | succ limit ih =>
      rw [takeBehind]
      cases pulled : scanner.pull? with
      | none => simp [items_none scanner pulled]
      | some found =>
          have left := items_some scanner found.2 found.1 pulled
          obtain ⟨reply, taken⟩ := ih found.2 (found.1 :: before)
          constructor
          · rw [left, List.take_succ_cons]
            simpa using reply
          · rw [left, List.take_succ_cons, List.cons_append]
            exact congrArg (found.1 :: ·) taken

theorem drain_served (scanner : Scanner) (call : Call)
    (all : call.taken scanner.items = scanner.items) :
    Served scanner call (call.reply scanner.items) scanner.drain.2 := by
  constructor
  · rfl
  · rw [all, items_none scanner.drain.2 (drain_stopped scanner), List.append_nil]

theorem answer_served (scanner : Scanner) (settled : Settled scanner) (call : Call) :
    Served scanner call (scanner.answer call).1 (scanner.answer call).2 := by
  cases call with
  | step => exact step_served scanner settled
  | pull => exact pull_served scanner
  | skip dropped =>
      obtain ⟨reply, taken⟩ := skip_exact dropped scanner
      exact ⟨congrArg Answer.item reply, taken⟩
  | take limit =>
      obtain ⟨reply, taken⟩ := takeBehind_exact limit scanner []
      exact ⟨congrArg Answer.items reply, taken⟩
  | collect => exact drain_served scanner .collect rfl
  | count => exact drain_served scanner .count rfl
  | last => exact drain_served scanner .last rfl

theorem perform_exact (scanner : Scanner) (settled : Settled scanner) (calls : List Call) :
    (scanner.perform calls).1 = Call.replies scanner.items calls ∧
      scanner.items = Call.allTaken scanner.items calls ++ (scanner.perform calls).2.items := by
  -- The items that one call leaves are the list that the later calls are answered from.
  induction calls generalizing scanner with
  | nil => exact ⟨rfl, rfl⟩
  | cons call later ih =>
      have served := answer_served scanner settled call
      obtain ⟨replies, taken⟩ := ih _ (answer_keeps settled_step settled_pull scanner settled call)
      have left : scanner.items.drop (call.taken scanner.items).length =
          (scanner.answer call).2.items := by
        have dropped := congrArg (List.drop (call.taken scanner.items).length) served.taken
        rwa [List.drop_left] at dropped
      constructor
      · rw [perform, Call.replies, left, ← replies, served.reply]
      · rw [perform, Call.allTaken, left, List.append_assoc, ← taken]
        exact served.taken

theorem end_mem_items (scanner : Scanner) (scanning : scanner.phase = .scanning) :
    Token.endOfInput ∈ scanner.items := by
  induction scanner using pull_induction Recognition.precedence with
  | stopped scanner stopped =>
      rw [(pull?_eq_none_iff scanner).mp stopped] at scanning
      cases scanning
  | pulled scanner next token pulled ih =>
      rw [items_some scanner next token pulled]
      obtain ⟨_, stepped | ⟨_, rfl, _⟩⟩ := pull?_cases scanner next token pulled
      · apply List.mem_cons_of_mem
        apply ih
        rw [(step?_stepped scanner next token stepped).phase, scanning]
      · exact List.mem_cons_self

theorem exhausted_iff (source : Text) (taken : List Token) (scanner : Scanner)
    (split : tokens source = taken ++ scanner.items) :
    scanner.phase = .exhausted ↔ Token.endOfInput ∈ taken := by
  have once := count_end_items (ofText source)
  have left := count_end_items scanner
  -- One end token is in the source, so it is either taken or left.
  have total : (tokens source).countP Token.isEnd = 1 := once
  rw [split, List.countP_append, left] at total
  constructor
  · intro exhausted
    have inside : Token.endOfInput ∈ tokens source := end_mem_items (ofText source) rfl
    rwa [split, items_exhausted scanner exhausted, List.append_nil] at inside
  · intro member
    have positive : 0 < taken.countP Token.isEnd :=
      List.countP_pos_iff.mpr ⟨Token.endOfInput, member, rfl⟩
    cases phase : scanner.phase with
    | exhausted => rfl
    | scanning =>
        rw [phase, if_pos rfl] at total
        omega

theorem answer_exhausted (scanner : Scanner) (settled : Settled scanner)
    (exhausted : scanner.phase = .exhausted) (call : Call) :
    scanner.answer call = (call.reply [], scanner) := by
  have stopped := pull?_exhausted scanner exhausted
  have drained : scanner.drain = ([], scanner) := drainBy_none _ scanner stopped
  cases call with
  | step =>
      rw [answer, step?_atEnd scanner (settled exhausted)]
      rfl
  | pull =>
      rw [answer, stopped]
      rfl
  | skip dropped =>
      cases dropped <;> simp [answer, skip, stopped, moved, Call.reply]
  | take limit =>
      cases limit <;> simp [answer, take, takeBehind, stopped, Call.reply]
  | collect | count | last =>
      rw [answer, drained]
      rfl

theorem answer_step (scanner : Scanner) :
    ((scanner.answer .step).1 = .item none ↔ scanner.atEnd = true) ∧
      (scanner.answer .step).1 ≠ .item (some Token.endOfInput) := by
  rw [answer, atEnd, List.isEmpty_iff, ← step?_eq_none_iff]
  cases stepped : scanner.step? with
  | none => simp [moved]
  | some found =>
      obtain ⟨token, next⟩ := found
      have notEnd := (step?_stepped scanner next token stepped).notEnd
      have other : token ≠ Token.endOfInput := by
        rintro rfl
        exact notEnd rfl
      simp [moved, other]

theorem answer_pull_end_iff (scanner : Scanner) :
    (scanner.answer .pull).1 = .item (some Token.endOfInput) ↔
      scanner.atEnd = true ∧ scanner.phase = .scanning := by
  rw [answer, atEnd, List.isEmpty_iff]
  constructor
  · intro same
    cases pulled : scanner.pull? with
    | none =>
        rw [pulled] at same
        cases same
    | some found =>
        obtain ⟨token, next⟩ := found
        rw [pulled] at same
        cases same
        obtain ⟨scanning, stepped | ⟨used, _, _⟩⟩ := pull?_cases scanner next _ pulled
        · exact absurd rfl (step?_stepped scanner next _ stepped).notEnd
        · exact ⟨used, scanning⟩
  · rintro ⟨used, scanning⟩
    rw [pull?_end scanner scanning used]
    rfl

/-- One stream, however it is driven. The answers are those of one list, and what is taken and what
is left make up the tokens of the source. The stream ends only where the text is used up. A step answers
nothing there and leaves the end token due; the first pull there, and no other, answers and takes it,
and behind it no call answers or changes anything. -/
theorem perform_one_stream (source : Text) (calls : List Call) :
    let served := (ofText source).perform calls
    served.1 = Call.replies (tokens source) calls ∧
      tokens source = Call.allTaken (tokens source) calls ++ served.2.items ∧
      (served.2.phase = .exhausted ↔
        Token.endOfInput ∈ Call.allTaken (tokens source) calls) ∧
      (served.2.phase = .exhausted → served.2.atEnd = true) ∧
      ((served.2.answer .step).1 = .item none ↔ served.2.atEnd = true) ∧
      (served.2.answer .step).1 ≠ .item (some Token.endOfInput) ∧
      (served.2.atEnd = true → served.2.answer .step = (.item none, served.2)) ∧
      ((served.2.answer .pull).1 = .item (some Token.endOfInput) ↔
        served.2.atEnd = true ∧ served.2.phase = .scanning) ∧
      (served.2.atEnd = true → served.2.phase = .scanning →
        served.2.answer .pull =
          (.item (some Token.endOfInput), { served.2 with phase := .exhausted })) ∧
      (served.2.phase = .exhausted → ∀ call,
        served.2.answer call = (call.reply [], served.2) ∧
          call.reply [] ∈ [.item none, .items [], .number 0]) := by
  intro served
  have start := settled_ofText source
  obtain ⟨replies, split⟩ := perform_exact (ofText source) start calls
  have settled : Settled served.2 :=
    perform_keeps settled_step settled_pull (ofText source) start calls
  obtain ⟨stepNone, stepPiece⟩ := answer_step served.2
  refine ⟨replies, split, exhausted_iff source _ served.2 split, ?_, stepNone, stepPiece, ?_,
    answer_pull_end_iff served.2, ?_, ?_⟩
  · intro exhausted
    exact List.isEmpty_iff.mpr (settled exhausted)
  · intro atEnd
    rw [answer, step?_atEnd served.2 (List.isEmpty_iff.mp atEnd)]
    rfl
  · intro atEnd scanning
    rw [answer, pull?_end served.2 scanning (List.isEmpty_iff.mp atEnd)]
    rfl
  · intro exhausted call
    refine ⟨answer_exhausted served.2 settled exhausted call, ?_⟩
    cases call <;> simp [Call.reply]

end Scanner

end LexicalScan
