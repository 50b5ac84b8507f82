import LexicalScan.Proofs.Runs

/-!
Where a number ends. The letter for the base and the point belong to a number only in front of a
digit, so one character of the text behind a number does not always decide that it ends. What is
measured is the longest number at the front all the same.
-/

namespace LexicalScan.Recognition

open Alphabet Grammar

def Marks (rest : Text) : Prop :=
  ∃ mark digit tail, rest = mark :: digit :: tail ∧ isRadixMark mark = true ∧
    isHexDigit digit = true

def Points (rest : Text) : Prop :=
  ∃ digit tail, rest = '.' :: digit :: tail ∧ isHexDigit digit = true

def Whole (piece : Text) : Prop :=
  ∃ mark digits, RadixMark mark ∧ Run isHexDigit digits ∧ piece = mark ++ digits

/-- What must be true of the text behind a number for the number to end there. -/
structure NumberEnds (piece rest : Text) : Prop where
  noDigit : Stops isHexDigit rest
  noMark : piece = ['0'] → ¬ Marks rest
  noPoint : '.' ∉ piece → ¬ Points rest

theorem numberEnds_iff (piece rest : Text) :
    NumberEnds piece rest ↔
      Stops isHexDigit rest ∧ (piece = ['0'] → ¬ Marks rest) ∧ ('.' ∉ piece → ¬ Points rest) := by
  constructor
  · intro ends
    exact ⟨ends.noDigit, ends.noMark, ends.noPoint⟩
  · rintro ⟨noDigit, noMark, noPoint⟩
    exact ⟨noDigit, noMark, noPoint⟩

theorem radixMark_ne_point {mark : Char} (isMark : isRadixMark mark = true) : mark ≠ '.' := by
  rintro rfl
  contradiction

theorem hexDigit_ne_point {digit : Char} (isDigit : isHexDigit digit = true) : digit ≠ '.' := by
  rintro rfl
  contradiction

theorem radixMarkLength_of_marks (rest : Text) (marks : Marks rest) :
    radixMarkLength ('0' :: rest) = 2 := by
  obtain ⟨mark, digit, tail, rfl, isMark, isDigit⟩ := marks
  simp [radixMarkLength, isMark, isDigit]

theorem radixMarkLength_cases (text : Text) :
    radixMarkLength text = 0 ∨
      radixMarkLength text = 2 ∧ ∃ rest, text = '0' :: rest ∧ Marks rest := by
  unfold radixMarkLength
  split
  · rename_i mark digit tail
    split
    · rename_i both
      rw [Bool.and_eq_true] at both
      exact Or.inr ⟨rfl, _, rfl, mark, digit, tail, rfl, both.1, both.2⟩
    · exact Or.inl rfl
  · exact Or.inl rfl

theorem radixMarkLength_eq_zero (text : Text)
    (noMark : ∀ rest, text = '0' :: rest → ¬ Marks rest) : radixMarkLength text = 0 := by
  rcases radixMarkLength_cases text with unmarked | ⟨_, rest, split, marks⟩
  · exact unmarked
  · exact absurd marks (noMark rest split)

/-- How much of a text is a number up to its point. -/
def wholeLength (text : Text) : Nat :=
  radixMarkLength text + runLength isHexDigit (text.drop (radixMarkLength text))

theorem wholeLength_unmarked (text : Text) (unmarked : radixMarkLength text = 0) :
    wholeLength text = runLength isHexDigit text := by
  rw [wholeLength, unmarked, List.drop_zero, Nat.zero_add]

theorem wholeLength_marked (rest : Text) (marks : Marks rest) :
    wholeLength ('0' :: rest) = 2 + runLength isHexDigit (rest.drop 1) := by
  rw [wholeLength, radixMarkLength_of_marks rest marks, List.drop_succ_cons]

theorem runLength_marks_pos (rest : Text) (marks : Marks rest) :
    0 < runLength isHexDigit (rest.drop 1) := by
  obtain ⟨mark, digit, tail, rfl, _, isDigit⟩ := marks
  simp [runLength, isDigit]

theorem number?_eq (text : Text) :
    number? text =
      if wholeLength text = 0 then none
      else some (wholeLength text + fractionLength (text.drop (wholeLength text))) := by
  unfold number?
  simp only
  split
  · rename_i noDigits
    have noWhole : wholeLength text = 0 := by
      rcases radixMarkLength_cases text with unmarked | ⟨marked, rest, rfl, marks⟩
      · rw [unmarked, List.drop_zero] at noDigits
        rw [wholeLength_unmarked text unmarked, noDigits]
      · have positive := runLength_marks_pos rest marks
        rw [marked, List.drop_succ_cons] at noDigits
        omega
    rw [if_pos noWhole]
  · rename_i more measured
    have whole : wholeLength text = radixMarkLength text + (more + 1) := by
      rw [wholeLength, measured]
    rw [if_neg (by omega), whole]

theorem wholeLength_le (text : Text) : wholeLength text ≤ text.length := by
  rcases radixMarkLength_cases text with unmarked | ⟨marked, rest, rfl, mark, digit, tail, rfl, _⟩
  · rw [wholeLength_unmarked text unmarked]
    exact runLength_le isHexDigit text
  · have bound := runLength_le isHexDigit (digit :: tail)
    simp only [wholeLength, marked, List.drop_succ_cons, List.drop_zero, List.length_cons] at bound ⊢
    omega

/-- Digits measure as a run. If they begin with what could be a mark, its letter is a digit too. -/
theorem wholeLength_digits (digits rest : Text) (valid : Run isHexDigit digits)
    (noMark : digits = ['0'] → ¬ Marks rest) :
    wholeLength (digits ++ rest) = runLength isHexDigit (digits ++ rest) := by
  rcases radixMarkLength_cases (digits ++ rest) with unmarked | ⟨_, behind, split, marks⟩
  · exact wholeLength_unmarked _ unmarked
  -- With a mark in front, its letter lies inside the digits or right behind a single zero.
  obtain ⟨nonempty, inside⟩ := valid
  match digits with
  | [] => exact absurd rfl nonempty
  | [zero] =>
      obtain ⟨rfl, rfl⟩ := List.cons.inj split
      exact absurd marks (noMark rfl)
  | zero :: letter :: digits =>
      obtain ⟨rfl, rfl⟩ := List.cons.inj split
      have letterRun := runLength_append isHexDigit ['0', letter] (digits ++ rest)
        (fun c member => inside c (List.mem_append_left digits member))
      exact (wholeLength_marked _ marks).trans letterRun.symm

theorem wholeLength_mark_digits (letter : Char) (digits rest : Text)
    (isMark : isRadixMark letter = true) (valid : Run isHexDigit digits) :
    wholeLength ('0' :: letter :: (digits ++ rest)) =
      2 + runLength isHexDigit (digits ++ rest) := by
  obtain ⟨nonempty, inside⟩ := valid
  obtain ⟨digit, digits, rfl⟩ := List.exists_cons_of_ne_nil nonempty
  exact wholeLength_marked _
    ⟨letter, digit, digits ++ rest, rfl, isMark, inside digit List.mem_cons_self⟩

/-- The whole part that is measured is at least as long as any at the front. -/
theorem wholeLength_ge (piece rest : Text) (whole : Whole piece) :
    piece.length ≤ wholeLength (piece ++ rest) := by
  obtain ⟨mark, digits, marked | ⟨letter, isMark, marked⟩, valid, rfl⟩ := whole
  · subst mark
    rw [List.nil_append]
    by_cases goesOn : digits = ['0'] ∧ Marks rest
    · obtain ⟨rfl, marks⟩ := goesOn
      rw [List.cons_append, List.nil_append, wholeLength_marked rest marks]
      simp only [List.length_cons, List.length_nil]
      omega
    · rw [wholeLength_digits digits rest valid (fun single marks => goesOn ⟨single, marks⟩),
        runLength_append isHexDigit digits rest valid.2]
      exact Nat.le_add_right _ _
  · subst mark
    have measured := wholeLength_mark_digits letter digits rest isMark valid
    rw [runLength_append isHexDigit digits rest valid.2] at measured
    simp only [List.cons_append, List.nil_append, List.length_cons, measured]
    omega

theorem wholeLength_whole (piece rest : Text) (whole : Whole piece)
    (stops : Stops isHexDigit rest) (noMark : piece = ['0'] → ¬ Marks rest) :
    wholeLength (piece ++ rest) = piece.length := by
  obtain ⟨mark, digits, marked | ⟨letter, isMark, marked⟩, valid, rfl⟩ := whole
  · subst mark
    rw [List.nil_append] at noMark ⊢
    rw [wholeLength_digits digits rest valid noMark]
    exact (runLength_append_iff isHexDigit digits rest).mpr ⟨valid.2, stops⟩
  · subst mark
    have measured := wholeLength_mark_digits letter digits rest isMark valid
    rw [(runLength_append_iff isHexDigit digits rest).mpr ⟨valid.2, stops⟩] at measured
    simp only [List.cons_append, List.nil_append, List.length_cons, measured]
    omega

theorem whole_of_wholeLength (piece rest : Text) (nonempty : piece ≠ [])
    (measured : wholeLength (piece ++ rest) = piece.length) :
    Whole piece ∧ Stops isHexDigit rest ∧ (piece = ['0'] → ¬ Marks rest) := by
  rcases radixMarkLength_cases (piece ++ rest) with unmarked | ⟨_, behind, split, marks⟩
  · rw [wholeLength_unmarked _ unmarked, runLength_append_iff] at measured
    obtain ⟨inside, stops⟩ := measured
    refine ⟨⟨[], piece, Or.inl rfl, ⟨nonempty, inside⟩, rfl⟩, stops, ?_⟩
    rintro rfl marks
    have marked := radixMarkLength_of_marks rest marks
    rw [List.cons_append, List.nil_append, marked] at unmarked
    cases unmarked
  · have positive := runLength_marks_pos behind marks
    rw [split, wholeLength_marked behind marks] at measured
    obtain ⟨letter, digit, tail, rfl, isMark, isDigit⟩ := marks
    match piece with
    | [] => exact absurd rfl nonempty
    | [_] =>
        simp only [List.length_cons, List.length_nil] at measured
        omega
    | zero :: other :: digits =>
        simp only [List.cons_append, List.cons.injEq] at split
        obtain ⟨rfl, rfl, split⟩ := split
        simp only [List.drop_succ_cons, List.drop_zero, List.length_cons, ← split]
          at measured positive
        have exactRun : runLength isHexDigit (digits ++ rest) = digits.length := by omega
        obtain ⟨inside, stops⟩ := (runLength_append_iff isHexDigit digits rest).mp exactRun
        have someDigit : digits ≠ [] := by
          rintro rfl
          rw [exactRun] at positive
          exact Nat.lt_irrefl 0 positive
        refine ⟨⟨['0', other], digits, Or.inr ⟨other, isMark, rfl⟩, ⟨someDigit, inside⟩, rfl⟩,
          stops, ?_⟩
        intro single
        cases single

theorem points_of_run (rest : Text) (positive : 0 < runLength isHexDigit rest) :
    Points ('.' :: rest) := by
  cases rest with
  | nil => exact absurd positive (Nat.lt_irrefl 0)
  | cons digit tail =>
      cases isDigit : isHexDigit digit with
      | false => simp [runLength, isDigit] at positive
      | true => exact ⟨digit, tail, rfl, isDigit⟩

theorem run_of_points (rest : Text) (points : Points ('.' :: rest)) :
    0 < runLength isHexDigit rest := by
  obtain ⟨digit, tail, split, isDigit⟩ := points
  cases split
  simp [runLength, isDigit]

theorem fractionLength_point (rest : Text) (points : Points ('.' :: rest)) :
    fractionLength ('.' :: rest) = 1 + runLength isHexDigit rest := by
  have positive := run_of_points rest points
  simp only [fractionLength]
  split <;> omega

theorem fractionLength_eq_zero (rest : Text) (noPoint : ¬ Points rest) :
    fractionLength rest = 0 := by
  unfold fractionLength
  split
  · rename_i rest
    have noRun : runLength isHexDigit rest = 0 := by
      apply Nat.eq_zero_of_not_pos
      intro positive
      exact noPoint (points_of_run rest positive)
    rw [noRun]
  · rfl

theorem fractionLength_cases (text : Text) :
    fractionLength text = 0 ∧ ¬ Points text ∨ ∃ rest, text = '.' :: rest ∧ Points text := by
  by_cases points : Points text
  · obtain ⟨digit, tail, rfl, isDigit⟩ := points
    exact Or.inr ⟨_, rfl, digit, tail, rfl, isDigit⟩
  · exact Or.inl ⟨fractionLength_eq_zero text points, points⟩

theorem fractionLength_le (text : Text) : fractionLength text ≤ text.length := by
  rcases fractionLength_cases text with ⟨none, _⟩ | ⟨rest, rfl, points⟩
  · rw [none]
    exact Nat.zero_le _
  · have bound := runLength_le isHexDigit rest
    rw [fractionLength_point rest points, List.length_cons]
    omega

theorem fractionLength_run (digits rest : Text) (valid : Run isHexDigit digits) :
    fractionLength ('.' :: (digits ++ rest)) = 1 + digits.length + runLength isHexDigit rest := by
  have run := runLength_append isHexDigit digits rest valid.2
  have positive : 0 < digits.length := List.length_pos_iff.mpr valid.1
  rw [fractionLength_point _ (points_of_run _ (by omega)), run]
  omega

theorem fraction_of_fractionLength (piece rest : Text)
    (measured : fractionLength (piece ++ rest) = piece.length) :
    Fraction piece ∧ (piece = [] → ¬ Points rest) ∧ (piece ≠ [] → Stops isHexDigit rest) := by
  rcases fractionLength_cases (piece ++ rest) with ⟨none, noPoint⟩ | ⟨behind, split, points⟩
  · have empty : piece = [] := List.length_eq_zero_iff.mp (measured.symm.trans none)
    subst piece
    exact ⟨Or.inl rfl, fun _ => noPoint, fun nonempty => absurd rfl nonempty⟩
  · rw [split] at measured points
    rw [fractionLength_point behind points] at measured
    cases piece with
    | nil =>
        rw [List.length_nil] at measured
        omega
    | cons point digits =>
        rw [List.cons_append] at split
        obtain ⟨rfl, rfl⟩ := List.cons.inj split
        have exactRun : runLength isHexDigit (digits ++ rest) = digits.length := by
          rw [List.length_cons] at measured
          omega
        have positive := run_of_points _ points
        obtain ⟨inside, stops⟩ := (runLength_append_iff isHexDigit digits rest).mp exactRun
        have someDigit : digits ≠ [] := List.length_pos_iff.mp (exactRun ▸ positive)
        refine ⟨Or.inr ⟨digits, ⟨someDigit, inside⟩, rfl⟩, ?_, fun _ => stops⟩
        intro empty
        cases empty

theorem wholeLength_point (piece rest : Text) (whole : Whole piece) :
    wholeLength (piece ++ '.' :: rest) = piece.length := by
  apply wholeLength_whole piece _ whole
  · rw [stops_cons]
    rfl
  · rintro _ ⟨mark, digit, tail, split, isMark, _⟩
    cases split
    contradiction

theorem whole_ne_nil {piece : Text} (whole : Whole piece) : piece ≠ [] := by
  obtain ⟨mark, digits, _, ⟨nonempty, _⟩, rfl⟩ := whole
  exact List.append_ne_nil_of_right_ne_nil mark nonempty

theorem point_notMem_whole {piece : Text} (whole : Whole piece) : '.' ∉ piece := by
  obtain ⟨mark, digits, marked | ⟨letter, isMark, marked⟩, ⟨_, inside⟩, rfl⟩ := whole <;>
    subst mark <;> intro member
  · exact hexDigit_ne_point (inside '.' member) rfl
  · rcases List.mem_append.mp member with front | behind
    · rcases List.mem_cons.mp front with zero | front
      · contradiction
      · exact radixMark_ne_point isMark (List.mem_singleton.mp front).symm
    · exact hexDigit_ne_point (inside '.' behind) rfl

theorem language_number_iff (piece : Text) :
    Language .number piece ↔
      ∃ whole fraction, Whole whole ∧ Fraction fraction ∧ piece = whole ++ fraction := by
  constructor
  · rintro ⟨mark, digits, fraction, marked, run, behind, rfl⟩
    exact ⟨mark ++ digits, fraction, ⟨mark, digits, marked, run, rfl⟩, behind, rfl⟩
  · rintro ⟨_, fraction, ⟨mark, digits, marked, run, rfl⟩, behind, rfl⟩
    exact ⟨mark, digits, fraction, marked, run, behind, rfl⟩

theorem number?_whole (text : Text) (length : Nat) :
    number? text = some length ↔
      wholeLength text ≠ 0 ∧
        length = wholeLength text + fractionLength (text.drop (wholeLength text)) := by
  rw [number?_eq]
  split
  · rename_i none
    simp [none]
  · rename_i some
    simp [some, eq_comm]

theorem number?_le (text : Text) (length : Nat) (found : number? text = some length) :
    length ≤ text.length := by
  obtain ⟨_, rfl⟩ := (number?_whole text length).mp found
  have whole := wholeLength_le text
  have fraction := fractionLength_le (text.drop (wholeLength text))
  rw [List.length_drop] at fraction
  omega

theorem number?_ge (piece rest : Text) (valid : Language .number piece) :
    ∃ length, number? (piece ++ rest) = some length ∧ piece.length ≤ length := by
  obtain ⟨whole, fraction, isWhole, isFraction, rfl⟩ := (language_number_iff piece).mp valid
  have someWhole : 0 < whole.length := List.length_pos_iff.mpr (whole_ne_nil isWhole)
  have bound := wholeLength_ge whole (fraction ++ rest) isWhole
  rw [← List.append_assoc] at bound
  refine ⟨_, (number?_whole _ _).mpr ⟨by omega, rfl⟩, ?_⟩
  rcases isFraction with rfl | ⟨digits, run, rfl⟩
  · rw [List.append_nil] at bound ⊢
    exact Nat.le_trans bound (Nat.le_add_right _ _)
  · have ended := wholeLength_point whole (digits ++ rest) isWhole
    have fraction := fractionLength_run digits rest run
    simp only [List.append_assoc, List.cons_append, ended, List.drop_left, fraction,
      List.length_append, List.length_cons]
    omega

theorem number?_of_ends (piece rest : Text) (valid : Language .number piece)
    (ends : NumberEnds piece rest) : number? (piece ++ rest) = some piece.length := by
  obtain ⟨whole, fraction, isWhole, isFraction, rfl⟩ := (language_number_iff piece).mp valid
  have someWhole : whole.length ≠ 0 := mt List.length_eq_zero_iff.mp (whole_ne_nil isWhole)
  have ended : wholeLength (whole ++ (fraction ++ rest)) = whole.length := by
    rcases isFraction with rfl | ⟨digits, _, rfl⟩
    · have noMark := ends.noMark
      rw [List.append_nil] at noMark
      exact wholeLength_whole whole rest isWhole ends.noDigit noMark
    · exact wholeLength_point whole (digits ++ rest) isWhole
  have added : fractionLength (fraction ++ rest) = fraction.length := by
    rcases isFraction with rfl | ⟨digits, run, rfl⟩
    · have noPoint := ends.noPoint
      rw [List.append_nil] at noPoint
      exact fractionLength_eq_zero rest (noPoint (point_notMem_whole isWhole))
    · have stopped := (runLength_eq_zero_iff isHexDigit rest).mpr ends.noDigit
      rw [List.cons_append, fractionLength_run digits rest run, stopped, List.length_cons]
      omega
  rw [List.append_assoc, number?_whole, ended, List.drop_left, added]
  exact ⟨someWhole, List.length_append⟩

theorem ends_of_number? (piece rest : Text)
    (found : number? (piece ++ rest) = some piece.length) :
    Language .number piece ∧ NumberEnds piece rest := by
  obtain ⟨someWhole, measured⟩ := (number?_whole _ _).mp found
  -- The piece is cut where its whole part was measured to end.
  obtain ⟨whole, fraction, rfl, ended⟩ :
      ∃ whole fraction, piece = whole ++ fraction ∧ wholeLength (piece ++ rest) = whole.length := by
    refine ⟨_, _, (List.take_append_drop (wholeLength (piece ++ rest)) piece).symm, ?_⟩
    rw [List.length_take]
    omega
  rw [ended, List.append_assoc, List.drop_left, List.length_append] at measured
  rw [ended] at someWhole
  rw [List.append_assoc] at ended
  have nonempty : whole ≠ [] := mt List.length_eq_zero_iff.mpr someWhole
  obtain ⟨isWhole, stops, noMark⟩ := whole_of_wholeLength whole _ nonempty ended
  obtain ⟨isFraction, noPoint, stopsBehind⟩ :=
    fraction_of_fractionLength fraction rest (by omega)
  refine ⟨(language_number_iff _).mpr ⟨whole, fraction, isWhole, isFraction, rfl⟩, ?_⟩
  rcases isFraction with rfl | ⟨digits, _, rfl⟩
  · rw [List.append_nil]
    exact ⟨stops, noMark, fun _ => noPoint rfl⟩
  · refine ⟨stopsBehind (List.cons_ne_nil _ _), ?_, ?_⟩
    · intro single
      have onlyZero : '.' ∈ ['0'] := by
        rw [← single]
        exact List.mem_append_right whole List.mem_cons_self
      contradiction
    · intro noPointInside
      exact absurd (List.mem_append_right whole List.mem_cons_self) noPointInside

/-- A number ends behind a piece exactly if the piece is a number and nothing behind it goes on with
it. -/
theorem number?_append_iff (piece rest : Text) :
    number? (piece ++ rest) = some piece.length ↔
      Language .number piece ∧ NumberEnds piece rest :=
  ⟨ends_of_number? piece rest, fun both => number?_of_ends piece rest both.1 both.2⟩

end LexicalScan.Recognition
