import Mathlib.Data.List.Rotate
import LexicalScan.Proofs.Openings
import LexicalScan.Proofs.Stream

/-!
What the order of the kinds decides. Among the kinds that have a piece at the front of a text, the one
that stands first in the order is taken. Kinds of different families never have a piece at the same
place, so two pairs of kinds are all that an order can decide about: a comment and an operator, and a
symbol and a number. A scan is a row of such decisions, so two orders give the same tokens of every
source exactly if they take the same piece off the front of every text.
-/

namespace LexicalScan

namespace Recognition

theorem idxOf_lt_iff (before after : List Kind) (kind other : Kind) (absent : kind ∉ before) :
    (before ++ kind :: after).idxOf other < (before ++ kind :: after).idxOf kind ↔
      other ∈ before := by
  have place : (before ++ kind :: after).idxOf kind = before.length := by
    rw [List.idxOf_append_of_notMem absent, List.idxOf_cons_self, Nat.add_zero]
  rw [place]
  constructor
  · intro earlier
    by_contra behind
    rw [List.idxOf_append_of_notMem behind] at earlier
    omega
  · intro member
    rw [List.idxOf_append_of_mem member]
    exact List.idxOf_lt_length_of_mem member

theorem classifyBy_least_iff (order : List Kind) (text : Text) (kind : Kind) (length : Nat)
    (known : kind ≠ .unknown) :
    classifyBy order text = (kind, length) ↔
      kind ∈ order ∧ length? kind text = some length ∧
        ∀ other ∈ order, length? other text ≠ none → order.idxOf kind ≤ order.idxOf other := by
  rw [classifyBy_known_iff order text kind length known]
  constructor
  · rintro ⟨before, after, rfl, measured, unmatched⟩
    have absent : kind ∉ before := by
      intro member
      rw [unmatched kind member] at measured
      cases measured
    refine ⟨List.mem_append_right _ List.mem_cons_self, measured, ?_⟩
    intro other _ applies
    rw [← Nat.not_lt, idxOf_lt_iff before after kind other absent]
    exact fun member => applies (unmatched other member)
  · rintro ⟨member, measured, least⟩
    obtain ⟨before, after, rfl, absent⟩ := List.eq_append_cons_of_mem member
    refine ⟨before, after, rfl, measured, ?_⟩
    intro other inFront
    by_contra applies
    have behind := least other (List.mem_append_left _ inFront) applies
    rw [← Nat.not_lt, idxOf_lt_iff before after kind other absent] at behind
    exact behind inFront

theorem family_cases (kind other : Kind) (same : family other = family kind) :
    other = kind ∨ (kind = .comment ∧ other = .operator) ∨ (kind = .operator ∧ other = .comment) ∨
      (kind = .symbol ∧ other = .number) ∨ (kind = .number ∧ other = .symbol) := by
  revert same
  cases kind <;> cases other <;> decide

/-- An order that keeps the two pairs takes what the order of the table takes. -/
theorem classifyBy_rearranged (order : List Kind) (permuted : order.Perm precedence)
    (comments : order.idxOf .comment < order.idxOf .operator)
    (symbols : order.idxOf .symbol < order.idxOf .number) (text : Text) :
    classifyBy order text = classify text := by
  rcases classifyBy_cases precedence text with
    ⟨fallback, unmatched⟩ | ⟨kind, length, member, measured, taken⟩
  · rw [classify, fallback, classifyBy_unknown_iff]
    refine ⟨rfl, ?_⟩
    intro kind member
    exact unmatched kind (permuted.mem_iff.mp member)
  · have known : kind ≠ .unknown := by
      rintro rfl
      cases measured
    rw [classify, taken, classifyBy_least_iff order text kind length known]
    obtain ⟨_, noComment, noSymbol⟩ := (classify_eq_iff kind text length known).mp taken
    refine ⟨permuted.mem_iff.mpr member, measured, ?_⟩
    intro other _ applies
    have same : family other = family kind := by
      by_contra apart
      exact applies (length?_apart kind other text length measured apart)
    rcases family_cases kind other same with
      rfl | ⟨rfl, rfl⟩ | ⟨rfl, rfl⟩ | ⟨rfl, rfl⟩ | ⟨rfl, rfl⟩
    · exact Nat.le_refl _
    · exact Nat.le_of_lt comments
    · exact absurd (noComment rfl) applies
    · exact Nat.le_of_lt symbols
    · exact absurd (noSymbol rfl) applies

/-- A kind that gives way to another on some text stands behind it in the order. -/
theorem idxOf_lt_of_taken (order : List Kind) (text : Text) (kind rival : Kind) (length : Nat)
    (known : kind ≠ .unknown) (taken : classifyBy order text = (kind, length))
    (member : rival ∈ order) (applies : length? rival text ≠ none) (different : rival ≠ kind) :
    order.idxOf kind < order.idxOf rival := by
  obtain ⟨kindMember, _, least⟩ := (classifyBy_least_iff order text kind length known).mp taken
  apply Nat.lt_of_le_of_ne (least rival member applies)
  intro same
  exact different ((List.idxOf_inj member).mp same.symm)

end Recognition

namespace Scanner

open Recognition

variable {order other : List Kind}

theorem stepBy?_congr (same : ∀ text, text ≠ [] → classifyBy order text = classifyBy other text)
    (scanner : Scanner) : scanner.stepBy? order = scanner.stepBy? other := by
  by_cases used : scanner.rest = []
  · rw [stepBy?, stepBy?, atEnd, used]
    rfl
  · rw [stepBy?_of_remains order scanner used, stepBy?_of_remains other scanner used,
      same scanner.rest used]

theorem pullBy?_congr (same : ∀ text, text ≠ [] → classifyBy order text = classifyBy other text)
    (scanner : Scanner) : scanner.pullBy? order = scanner.pullBy? other := by
  rw [pullBy?, pullBy?, stepBy?_congr same scanner]

theorem drainBy_congr (same : ∀ text, text ≠ [] → classifyBy order text = classifyBy other text)
    (scanner : Scanner) : scanner.drainBy order = scanner.drainBy other := by
  induction scanner using pull_induction order with
  | stopped scanner stopped =>
      rw [drainBy_none order scanner stopped]
      rw [pullBy?_congr same] at stopped
      rw [drainBy_none other scanner stopped]
  | pulled scanner next token pulled ih =>
      rw [drainBy_some order scanner next token pulled, ih]
      rw [pullBy?_congr same] at pulled
      rw [drainBy_some other scanner next token pulled]

end Scanner

open Recognition

theorem tokensBy_cons (order : List Kind) (source : Text) (nonempty : source ≠ []) :
    ∃ later, tokensBy order source =
      ⟨(classifyBy order source).1, source.take (classifyBy order source).2, some .start⟩ ::
        later := by
  have stepped := Scanner.stepBy?_of_remains order (Scanner.ofText source) nonempty
  have pulled : (Scanner.ofText source).pullBy? order = (Scanner.ofText source).stepBy? order := by
    rw [Scanner.pullBy?, stepped]
    rfl
  rw [stepped] at pulled
  rw [tokensBy, Scanner.drainBy_some order _ _ _ pulled]
  exact ⟨_, rfl⟩

/-- Two orders give the same tokens of every source exactly if they take the same piece off the front
of every text. -/
theorem tokensBy_eq_iff (order other : List Kind) :
    (∀ source, tokensBy order source = tokensBy other source) ↔
      ∀ text, text ≠ [] → classifyBy order text = classifyBy other text := by
  constructor
  · intro same text nonempty
    obtain ⟨later, byOrder⟩ := tokensBy_cons order text nonempty
    obtain ⟨behind, byOther⟩ := tokensBy_cons other text nonempty
    have first := (List.cons.inj (byOrder.symm.trans ((same text).trans byOther))).1
    have length := congrArg (fun token => token.value.length) first
    simp only [List.length_take_of_le (classifyBy_le _ text nonempty)] at length
    exact Prod.ext (congrArg Token.kind first) length
  · intro same source
    rw [tokensBy, tokensBy, Scanner.drainBy_congr same]

/-- The patterns of the table in any order are the rules of the kinds in that order. The scan gives the
same tokens of every source exactly if a comment is still tried before an operator and a symbol before a
number. -/
theorem tokensBy_permuted_iff (entries : List (Kind × Pattern))
    (permuted : entries.Perm Pattern.table) :
    let order := entries.map Prod.fst
    (∀ text, Pattern.firstMatch entries text = classifyBy order text) ∧
      ((∀ source, tokensBy order source = tokens source) ↔
        order.idxOf .comment < order.idxOf .operator ∧
          order.idxOf .symbol < order.idxOf .number) := by
  intro order
  have orderPermuted : order.Perm precedence := permuted.map Prod.fst
  constructor
  · intro text
    have rules := Pattern.findSome?_entries text entries fun entry member =>
      Pattern.length?_table text entry (permuted.mem_iff.mp member)
    rw [Pattern.firstMatch, rules, classifyBy]
  · refine (tokensBy_eq_iff order precedence).trans ?_
    constructor
    · intro same
      have slashes := same ['/', '/'] (List.cons_ne_nil _ _)
      have letter := same ['a'] (List.cons_ne_nil _ _)
      constructor
      · exact idxOf_lt_of_taken order _ .comment .operator 2 (by decide) slashes
          (orderPermuted.mem_iff.mpr (by decide)) (by decide) (by decide)
      · exact idxOf_lt_of_taken order _ .symbol .number 1 (by decide) letter
          (orderPermuted.mem_iff.mpr (by decide)) (by decide) (by decide)
    · rintro ⟨comments, symbols⟩ text _
      exact classifyBy_rearranged order orderPermuted comments symbols text

/-- Words and numbers may be tried first, in the same order as before. -/
theorem tokensBy_permuted_words_first :
    let entries := Pattern.table.rotate 5
    entries.Perm Pattern.table ∧
      let order := entries.map Prod.fst
      order = [.symbol, .number, .comment, .punctuation, .blank, .operator, .string] ∧
        (∀ text, Pattern.firstMatch entries text = classifyBy order text) ∧
        ((∀ source, tokensBy order source = tokens source) ↔
          order.idxOf .comment < order.idxOf .operator ∧
            order.idxOf .symbol < order.idxOf .number) := by
  intro entries
  have permuted : entries.Perm Pattern.table := List.rotate_perm Pattern.table 5
  exact ⟨permuted, rfl, tokensBy_permuted_iff entries permuted⟩

end LexicalScan
