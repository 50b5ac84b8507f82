import LexicalScan.Proofs.Runs

/-!
Where a string closes. The rule reads a string from the left, one character or one pair with a
backslash at a time, and never goes back. The same place is found from the quote itself: a quote
closes a string if the backslashes that stand together in front of it pair up.
-/

namespace LexicalScan.Recognition

open Grammar (StringBody)

theorem quote_ne_backslash {quote : Char} (isQuote : Alphabet.isQuote quote = true) :
    quote ≠ '\\' := by
  rintro rfl
  contradiction

theorem closing?_cons (quote c : Char) (rest : Text) (length : Nat) (plain : c ≠ '\\') :
    closing? quote (c :: rest) length =
      if c = quote then some (length + 1) else closing? quote rest (length + 1) := by
  rw [closing?.eq_def]
  split
  · contradiction
  · rename_i same
    cases same
    exact absurd rfl plain
  · rename_i same
    cases same
    exact absurd rfl plain
  · rename_i same
    cases same
    rfl

theorem closing?_body (quote : Char) (different : quote ≠ '\\') (body tail : Text) (length : Nat)
    (valid : StringBody quote body) :
    closing? quote (body ++ quote :: tail) length = some (length + body.length + 1) := by
  induction valid generalizing length with
  | empty =>
      rw [List.nil_append, closing?_cons quote quote tail length different]
      simp
  | plain notQuote notBackslash valid ih =>
      rw [List.cons_append, closing?_cons _ _ _ _ notBackslash, if_neg notQuote, ih]
      simp only [List.length_cons]
      congr 1
      omega
  | escaped valid ih =>
      rw [List.cons_append, List.cons_append, closing?, ih]
      simp only [List.length_cons]
      congr 1
      omega

theorem body_of_closing? (quote : Char) (text : Text) (length found : Nat)
    (closed : closing? quote text length = some found) :
    ∃ body tail, text = body ++ quote :: tail ∧ StringBody quote body ∧
      found = length + body.length + 1 := by
  fun_induction closing? quote text length with
  | case1 => cases closed
  | case2 => cases closed
  | case3 c rest length ih =>
      obtain ⟨body, tail, split, valid, measured⟩ := ih closed
      refine ⟨'\\' :: c :: body, tail, by rw [split]; rfl, .escaped valid, ?_⟩
      simp only [List.length_cons]
      omega
  | case4 rest length =>
      cases closed
      exact ⟨[], rest, rfl, .empty, rfl⟩
  | case5 c rest length notLast notPair notQuote ih =>
      have notBackslash : c ≠ '\\' := by
        rintro rfl
        cases rest with
        | nil => exact notLast rfl rfl
        | cons next tail => exact notPair next tail rfl rfl
      obtain ⟨body, tail, split, valid, measured⟩ := ih closed
      refine ⟨c :: body, tail, by rw [split]; rfl, .plain notQuote notBackslash valid, ?_⟩
      simp only [List.length_cons]
      omega

theorem closing?_eq_some_iff (quote : Char) (different : quote ≠ '\\') (text : Text)
    (length found : Nat) :
    closing? quote text length = some found ↔
      ∃ body tail, text = body ++ quote :: tail ∧ StringBody quote body ∧
        found = length + body.length + 1 := by
  constructor
  · exact body_of_closing? quote text length found
  · rintro ⟨body, tail, rfl, valid, rfl⟩
    exact closing?_body quote different body tail length valid

/-- Whether the backslashes that stand together at the end of a text pair up. -/
def Paired (text : Text) : Prop := runLength (· == '\\') text.reverse % 2 = 0

theorem paired_nil : Paired [] := rfl

theorem paired_plain (front : Text) (c : Char) (plain : c ≠ '\\') : Paired (front ++ [c]) := by
  simp [Paired, runLength, plain]

theorem paired_backslash (front : Text) : Paired (front ++ ['\\']) ↔ ¬ Paired front := by
  have oneMore : runLength (· == '\\') (front ++ ['\\']).reverse =
      runLength (· == '\\') front.reverse + 1 := by
    simp [runLength]
  rw [Paired, Paired, oneMore]
  omega

theorem paired_pair (front : Text) (c : Char) (paired : Paired front) :
    Paired (front ++ ['\\', c]) := by
  have oneByOne : front ++ ['\\', c] = (front ++ ['\\']) ++ [c] := by simp
  rw [oneByOne]
  by_cases plain : c = '\\'
  · subst c
    rw [paired_backslash, paired_backslash]
    exact not_not_intro paired
  · exact paired_plain _ c plain

/-- Backslashes in front of a place are counted back to the last other character. -/
theorem paired_behind (before inside : Text) (c : Char) (plain : c ≠ '\\') :
    Paired (before ++ c :: inside) ↔ Paired inside := by
  have outside : (c == '\\') = false := beq_eq_false_iff_ne.mpr plain
  rw [Paired, Paired, List.reverse_append, List.reverse_cons, List.append_assoc,
    List.singleton_append, runLength_append_cons (· == '\\') _ _ c outside]

/-- Reading a body from the left ends behind a whole number of pairs. -/
theorem paired_body (quote : Char) (body front : Text) (valid : StringBody quote body)
    (paired : Paired front) : Paired (front ++ body) := by
  induction valid generalizing front with
  | empty => rwa [List.append_nil]
  | @plain c rest _ notBackslash _ ih =>
      have step := ih (front ++ [c]) (paired_plain front c notBackslash)
      simpa using step
  | @escaped c rest _ ih =>
      have step := ih (front ++ ['\\', c]) (paired_pair front c paired)
      simpa using step

/-- In front of a quote behind paired backslashes, or at it, a body read from the left comes to a
quote. The text `front` has been read. -/
theorem body_of_paired (quote : Char) (after : Text) : ∀ before front : Text,
    Paired front → Paired (front ++ before) →
      ∃ body tail, before ++ quote :: after = body ++ quote :: tail ∧ StringBody quote body ∧
        body.length ≤ before.length
  | [], _, _, _ => ⟨[], after, rfl, .empty, Nat.le_refl _⟩
  | c :: rest, front, paired, pairedBehind => by
      by_cases atQuote : c = quote
      · subst c
        exact ⟨[], rest ++ quote :: after, rfl, .empty, Nat.zero_le _⟩
      by_cases plain : c = '\\'
      · subst c
        -- A backslash right in front of the quote would leave the run odd.
        cases rest with
        | nil => exact absurd paired ((paired_backslash front).mp pairedBehind)
        | cons next rest =>
            obtain ⟨body, tail, split, valid, short⟩ :=
              body_of_paired quote after rest (front ++ ['\\', next])
                (paired_pair front next paired) (by simpa using pairedBehind)
            refine ⟨'\\' :: next :: body, tail, by simp [split], .escaped valid, ?_⟩
            simpa using short
      · obtain ⟨body, tail, split, valid, short⟩ :=
          body_of_paired quote after rest (front ++ [c])
            (paired_plain front c plain) (by simpa using pairedBehind)
        refine ⟨c :: body, tail, by simp [split], .plain atQuote plain valid, ?_⟩
        simpa using short

/-- Reading on from an opening quote finds no end exactly if no quote behind it stands behind paired
backslashes. -/
theorem closing?_eq_none_iff (quote : Char) (different : quote ≠ '\\') (text : Text)
    (length : Nat) :
    closing? quote text length = none ↔
      ∀ before after, text = before ++ quote :: after → ¬ Paired before := by
  constructor
  · rintro unclosed before after rfl paired
    obtain ⟨body, tail, split, valid, _⟩ :=
      body_of_paired quote after before [] paired_nil (by simpa using paired)
    rw [split, closing?_body quote different body tail length valid] at unclosed
    cases unclosed
  · intro noQuote
    cases closed : closing? quote text length with
    | none => rfl
    | some found =>
        obtain ⟨body, tail, split, valid, _⟩ := body_of_closing? quote text length found closed
        exact absurd (paired_body quote body [] valid paired_nil) (noQuote body tail split)

end LexicalScan.Recognition
