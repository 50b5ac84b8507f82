import LexicalScan.Proofs.Numbers
import LexicalScan.Proofs.Strings

/-!
The rule of each kind against the language of the kind. A rule stops behind a piece exactly if the
piece is in the language and the text behind it does not go on with it. No piece of the language at
the front is longer than the one that the rule takes.
-/

namespace LexicalScan.Recognition

open Alphabet Grammar

def isCommentPart (c : Char) : Bool := !isLineBreak c

/-- What must be true of the text behind a piece for the piece to end there. -/
def Ends : Kind → Text → Text → Prop
  | .comment, _, rest => Stops isCommentPart rest
  | .blank, _, rest => Stops isBlank rest
  | .operator, _, rest => Stops isOperator rest
  | .symbol, _, rest => Stops isSymbolPart rest
  | .number, piece, rest => NumberEnds piece rest
  | .punctuation, _, _ | .string, _, _ | .unknown, _, _ | .endOfInput, _, _ => True

theorem isCommentPart_iff (c : Char) : isCommentPart c = true ↔ isLineBreak c = false := by
  rw [isCommentPart, Bool.not_eq_true']

theorem comment?_eq_some_iff (text : Text) (length : Nat) :
    comment? text = some length ↔
      ∃ behind, text = '/' :: '/' :: behind ∧ length = 2 + runLength isCommentPart behind := by
  constructor
  · intro found
    unfold comment? at found
    split at found
    · cases found
      exact ⟨_, rfl, rfl⟩
    · cases found
  · rintro ⟨behind, rfl, rfl⟩
    rfl

theorem punctuation?_eq_some_iff (text : Text) (length : Nat) :
    punctuation? text = some length ↔
      ∃ c behind, text = c :: behind ∧ isPunctuation c = true ∧ length = 1 := by
  constructor
  · intro found
    unfold punctuation? at found
    split at found
    · cases found
    · split at found
      · rename_i c behind belongs
        cases found
        exact ⟨c, behind, rfl, belongs, rfl⟩
      · cases found
  · rintro ⟨c, behind, rfl, belongs, rfl⟩
    exact if_pos belongs

theorem symbol?_eq_some_iff (text : Text) (length : Nat) :
    symbol? text = some length ↔
      ∃ c behind, text = c :: behind ∧ isLetter c = true ∧
        length = 1 + runLength isSymbolPart behind := by
  constructor
  · intro found
    unfold symbol? at found
    split at found
    · cases found
    · split at found
      · rename_i c behind belongs
        cases found
        exact ⟨c, behind, rfl, belongs, rfl⟩
      · cases found
  · rintro ⟨c, behind, rfl, belongs, rfl⟩
    exact if_pos belongs

theorem string?_eq_some_iff (text : Text) (length : Nat) :
    string? text = some length ↔
      ∃ quote body tail, isQuote quote = true ∧ StringBody quote body ∧
        text = quote :: (body ++ quote :: tail) ∧ length = body.length + 2 := by
  cases text with
  | nil => simp [string?]
  | cons c behind =>
      cases opens : isQuote c with
      | false =>
          simp only [string?, opens, Bool.false_eq_true, if_false, reduceCtorEq, false_iff]
          rintro ⟨quote, body, tail, isQuote, _, split, _⟩
          cases split
          exact absurd isQuote (Bool.eq_false_iff.mp opens)
      | true =>
          rw [string?, if_pos opens, closing?_eq_some_iff c (quote_ne_backslash opens)]
          constructor
          · rintro ⟨body, tail, rfl, valid, rfl⟩
            exact ⟨c, body, tail, opens, valid, rfl, by omega⟩
          · rintro ⟨quote, body, tail, _, valid, split, rfl⟩
            cases split
            exact ⟨body, tail, rfl, valid, by omega⟩

theorem comment?_append_iff (piece rest : Text) :
    comment? (piece ++ rest) = some piece.length ↔
      Language .comment piece ∧ Stops isCommentPart rest := by
  rw [comment?_eq_some_iff]
  constructor
  · rintro ⟨behind, split, measured⟩
    match piece with
    | [] | [_] =>
        simp only [List.length_cons, List.length_nil] at measured
        omega
    | first :: second :: body =>
        simp only [List.cons_append, List.cons.injEq] at split
        obtain ⟨rfl, rfl, rfl⟩ := split
        have exactRun : runLength isCommentPart (body ++ rest) = body.length := by
          simp only [List.length_cons] at measured
          omega
        obtain ⟨inside, stops⟩ := (runLength_append_iff _ body rest).mp exactRun
        exact ⟨⟨body, fun c member => (isCommentPart_iff c).mp (inside c member), rfl⟩, stops⟩
  · rintro ⟨⟨body, inside, rfl⟩, stops⟩
    have exactRun := (runLength_append_iff isCommentPart body rest).mpr
      ⟨fun c member => (isCommentPart_iff c).mpr (inside c member), stops⟩
    refine ⟨body ++ rest, rfl, ?_⟩
    simp only [exactRun, List.length_cons]
    omega

theorem punctuation?_append_iff (piece rest : Text) :
    punctuation? (piece ++ rest) = some piece.length ↔ Language .punctuation piece := by
  rw [punctuation?_eq_some_iff]
  constructor
  · rintro ⟨c, behind, split, belongs, single⟩
    obtain ⟨d, rfl⟩ := List.length_eq_one_iff.mp single
    cases split
    exact ⟨c, belongs, rfl⟩
  · rintro ⟨c, belongs, rfl⟩
    exact ⟨c, rest, rfl, belongs, rfl⟩

theorem symbol?_append_iff (piece rest : Text) :
    symbol? (piece ++ rest) = some piece.length ↔
      Language .symbol piece ∧ Stops isSymbolPart rest := by
  rw [symbol?_eq_some_iff]
  constructor
  · rintro ⟨c, behind, split, belongs, measured⟩
    cases piece with
    | nil =>
        rw [List.length_nil] at measured
        omega
    | cons first body =>
        rw [List.cons_append] at split
        obtain ⟨rfl, rfl⟩ := List.cons.inj split
        have exactRun : runLength isSymbolPart (body ++ rest) = body.length := by
          rw [List.length_cons] at measured
          omega
        obtain ⟨inside, stops⟩ := (runLength_append_iff _ body rest).mp exactRun
        exact ⟨⟨first, body, belongs, inside, rfl⟩, stops⟩
  · rintro ⟨⟨first, body, belongs, inside, rfl⟩, stops⟩
    have exactRun := (runLength_append_iff isSymbolPart body rest).mpr ⟨inside, stops⟩
    refine ⟨first, body ++ rest, rfl, belongs, ?_⟩
    rw [exactRun, List.length_cons]
    omega

theorem string?_append_iff (piece rest : Text) :
    string? (piece ++ rest) = some piece.length ↔ Language .string piece := by
  rw [string?_eq_some_iff]
  constructor
  · rintro ⟨quote, body, tail, isQuote, valid, split, measured⟩
    -- The text behind plays no part, since a string carries its own end.
    have piece_eq : piece = quote :: (body ++ [quote]) := by
      have split : piece ++ rest = (quote :: (body ++ [quote])) ++ tail := by
        simp [split]
      refine (List.append_inj split ?_).1
      simp only [measured, List.length_cons, List.length_append, List.length_nil]
    exact ⟨quote, body, isQuote, valid, piece_eq⟩
  · rintro ⟨quote, body, isQuote, valid, rfl⟩
    refine ⟨quote, body, rest, isQuote, valid, by simp, by simp⟩

/-- The rule of a kind stops behind a piece exactly if the piece is in the language of the kind and
the text behind it does not go on with it. -/
theorem length?_append_iff (kind : Kind) (piece rest : Text) :
    length? kind (piece ++ rest) = some piece.length ↔
      Language kind piece ∧ Ends kind piece rest := by
  cases kind with
  | string => simpa [length?, Ends] using string?_append_iff piece rest
  | number => exact number?_append_iff piece rest
  | operator => exact run?_append_iff isOperator piece rest
  | blank => exact run?_append_iff isBlank piece rest
  | symbol => exact symbol?_append_iff piece rest
  | comment => exact comment?_append_iff piece rest
  | punctuation => simpa [length?, Ends] using punctuation?_append_iff piece rest
  | unknown => simp [length?, Grammar.Language]
  | endOfInput => simp [length?, Grammar.Language]

theorem length?_le (kind : Kind) (text : Text) (length : Nat)
    (found : length? kind text = some length) : length ≤ text.length := by
  cases kind with
  | string =>
      obtain ⟨quote, body, tail, _, _, rfl, rfl⟩ := (string?_eq_some_iff text length).mp found
      simp only [List.length_cons, List.length_append]
      omega
  | number => exact number?_le text length found
  | operator | blank =>
      obtain ⟨rfl, _⟩ := (run?_eq_some_iff _ text length).mp found
      exact runLength_le _ text
  | symbol =>
      obtain ⟨c, behind, rfl, _, rfl⟩ := (symbol?_eq_some_iff text length).mp found
      have bound := runLength_le isSymbolPart behind
      rw [List.length_cons]
      omega
  | comment =>
      obtain ⟨behind, rfl, rfl⟩ := (comment?_eq_some_iff text length).mp found
      have bound := runLength_le isCommentPart behind
      simp only [List.length_cons]
      omega
  | punctuation =>
      obtain ⟨c, behind, rfl, _, rfl⟩ := (punctuation?_eq_some_iff text length).mp found
      rw [List.length_cons]
      omega
  | unknown => cases found
  | endOfInput => cases found

theorem split_of_length? (kind : Kind) (text : Text) (length : Nat)
    (found : length? kind text = some length) :
    ∃ piece rest, text = piece ++ rest ∧ length = piece.length := by
  refine ⟨text.take length, text.drop length, (List.take_append_drop length text).symm, ?_⟩
  exact (List.length_take_of_le (length?_le kind text length found)).symm

theorem run?_ge (isMember : Char → Bool) (piece rest : Text) (valid : Run isMember piece) :
    ∃ length, run? isMember (piece ++ rest) = some length ∧ piece.length ≤ length := by
  have positive : 0 < piece.length := List.length_pos_iff.mpr valid.1
  have measured := runLength_append isMember piece rest valid.2
  refine ⟨_, (run?_eq_some_iff isMember _ _).mpr ⟨rfl, by omega⟩, by omega⟩

/-- A piece at the front is never longer than the one that the rule of its kind takes. -/
theorem length?_ge (kind : Kind) (piece rest : Text) (valid : Language kind piece) :
    ∃ length, length? kind (piece ++ rest) = some length ∧ piece.length ≤ length := by
  cases kind with
  | string => exact ⟨_, (string?_append_iff piece rest).mpr valid, Nat.le_refl _⟩
  | number => exact number?_ge piece rest valid
  | operator => exact run?_ge isOperator piece rest valid
  | blank => exact run?_ge isBlank piece rest valid
  | symbol =>
      obtain ⟨first, body, belongs, inside, rfl⟩ := valid
      have measured := runLength_append isSymbolPart body rest inside
      refine ⟨_, (symbol?_eq_some_iff _ _).mpr ⟨first, body ++ rest, rfl, belongs, rfl⟩, ?_⟩
      rw [List.length_cons]
      omega
  | comment =>
      obtain ⟨body, inside, rfl⟩ := valid
      have measured := runLength_append isCommentPart body rest
        (fun c member => (isCommentPart_iff c).mpr (inside c member))
      refine ⟨_, (comment?_eq_some_iff _ _).mpr ⟨body ++ rest, rfl, rfl⟩, ?_⟩
      simp only [List.length_cons]
      omega
  | punctuation => exact ⟨_, (punctuation?_append_iff piece rest).mpr valid, Nat.le_refl _⟩
  | unknown => cases valid
  | endOfInput => cases valid

end LexicalScan.Recognition
