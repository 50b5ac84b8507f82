import LexicalScan.Grammar
import LexicalScan.Recognition

/-!
Runs of one class of characters at the front of a text. A run is measured up to the first character
outside the class. So it ends at a place exactly if all that stands before the place belongs to the
class and what stands behind it does not begin with the class. A number in decimal is a run of digits,
and a field is a run of all characters but the mark behind it.
-/

namespace LexicalScan.Recognition

def Stops (isMember : Char → Bool) (rest : Text) : Prop :=
  ∀ c ∈ rest.head?, isMember c = false

theorem stops_nil (isMember : Char → Bool) : Stops isMember [] := by
  intro c member
  cases member

theorem stops_cons (isMember : Char → Bool) (c : Char) (rest : Text) :
    Stops isMember (c :: rest) ↔ isMember c = false := by
  simp [Stops]

theorem stops_append (isMember : Char → Bool) (text rest : Text) (nonempty : text ≠ []) :
    Stops isMember (text ++ rest) ↔ Stops isMember text := by
  obtain ⟨c, tail, rfl⟩ := List.exists_cons_of_ne_nil nonempty
  rw [List.cons_append, stops_cons, stops_cons]

theorem stops_append_cons (isMember : Char → Bool) (rest below : Text) (c : Char)
    (stops : Stops isMember rest) (outside : rest = [] → isMember c = false) :
    Stops isMember (rest ++ c :: below) := by
  by_cases empty : rest = []
  · rw [empty, List.nil_append, stops_cons]
    exact outside empty
  · exact (stops_append isMember rest _ empty).mpr stops

theorem runLength_le (isMember : Char → Bool) (text : Text) :
    runLength isMember text ≤ text.length := by
  unfold runLength
  exact (List.takeWhile_prefix isMember).length_le

theorem runLength_append (isMember : Char → Bool) (piece rest : Text)
    (inside : ∀ c ∈ piece, isMember c = true) :
    runLength isMember (piece ++ rest) = piece.length + runLength isMember rest := by
  unfold runLength
  rw [List.takeWhile_append_of_pos inside, List.length_append]

/-- A character outside the class ends the run wherever it stands, or the run has ended before. -/
theorem runLength_append_cons (isMember : Char → Bool) (piece rest : Text) (c : Char)
    (outside : isMember c = false) :
    runLength isMember (piece ++ c :: rest) = runLength isMember piece := by
  induction piece with
  | nil => simp [runLength, outside]
  | cons first tail ih =>
      unfold runLength at ih ⊢
      rw [List.cons_append, List.takeWhile_cons, List.takeWhile_cons]
      split
      · rw [List.length_cons, List.length_cons, ih]
      · rfl

theorem runLength_eq_zero_iff (isMember : Char → Bool) (rest : Text) :
    runLength isMember rest = 0 ↔ Stops isMember rest := by
  cases rest with
  | nil => simp [runLength, Stops]
  | cons c tail =>
      rw [stops_cons]
      cases belongs : isMember c <;> simp [runLength, belongs]

/-- A run ends behind a piece exactly if the piece lies in the class and the rest leaves it. -/
theorem runLength_append_iff (isMember : Char → Bool) (piece rest : Text) :
    runLength isMember (piece ++ rest) = piece.length ↔
      (∀ c ∈ piece, isMember c = true) ∧ Stops isMember rest := by
  -- The first character of the piece that leaves the class makes the run too short.
  induction piece with
  | nil => simp [runLength_eq_zero_iff]
  | cons c tail ih =>
      cases belongs : isMember c with
      | false => simp [runLength, belongs]
      | true =>
          have oneMore : runLength isMember (c :: (tail ++ rest)) =
              runLength isMember (tail ++ rest) + 1 := by
            simp [runLength, belongs]
          simp [oneMore, ih, belongs]

theorem run?_eq_some_iff (isMember : Char → Bool) (text : Text) (length : Nat) :
    run? isMember text = some length ↔ runLength isMember text = length ∧ length ≠ 0 := by
  unfold run?
  split
  · rename_i empty
    constructor
    · intro found
      cases found
    · rintro ⟨same, positive⟩
      exact absurd (same.symm.trans empty) positive
  · rename_i shorter measured
    rw [measured]
    constructor
    · intro found
      cases found
      exact ⟨rfl, Nat.succ_ne_zero shorter⟩
    · rintro ⟨rfl, _⟩
      rfl

theorem run?_eq_none_iff (isMember : Char → Bool) (text : Text) :
    run? isMember text = none ↔ Stops isMember text := by
  rw [← runLength_eq_zero_iff]
  unfold run?
  split
  · rename_i empty
    simp [empty]
  · rename_i shorter measured
    simp [measured]

theorem run?_append_iff (isMember : Char → Bool) (piece rest : Text) :
    run? isMember (piece ++ rest) = some piece.length ↔
      Grammar.Run isMember piece ∧ Stops isMember rest := by
  rw [run?_eq_some_iff, runLength_append_iff, Grammar.Run, Ne, List.length_eq_zero_iff]
  constructor
  · rintro ⟨⟨inside, stops⟩, nonempty⟩
    exact ⟨⟨nonempty, inside⟩, stops⟩
  · rintro ⟨⟨nonempty, inside⟩, stops⟩
    exact ⟨⟨inside, stops⟩, nonempty⟩

end LexicalScan.Recognition

namespace LexicalScan.Text

theorem isDigit_decimal (number : Nat) : ∀ c ∈ decimal number, c.isDigit = true := by
  intro c member
  exact Nat.isDigit_of_mem_toDigits (by decide) (by decide) member

theorem notMem_decimal (number : Nat) (c : Char) (other : c.isDigit = false) :
    c ∉ decimal number := by
  intro member
  rw [isDigit_decimal number c member] at other
  cases other

section Mark

variable {mark : Char} (field rest : Text)

theorem unmarked (plain : mark ∉ field) : ∀ c ∈ field, (c != mark) = true := by
  intro c member
  rw [bne_iff_ne]
  rintro rfl
  exact plain member

theorem takeWhile_unmarked (plain : mark ∉ field) :
    (field ++ rest).takeWhile (· != mark) = field ++ rest.takeWhile (· != mark) :=
  List.takeWhile_append_of_pos (unmarked field plain)

theorem takeWhile_field (plain : mark ∉ field) :
    (field ++ mark :: rest).takeWhile (· != mark) = field := by
  rw [takeWhile_unmarked field _ plain, List.takeWhile_cons_of_neg (by simp), List.append_nil]

theorem dropWhile_field (plain : mark ∉ field) :
    (field ++ mark :: rest).dropWhile (· != mark) = mark :: rest := by
  rw [List.dropWhile_append_of_pos (unmarked field plain), List.dropWhile_cons_of_neg (by simp)]

theorem takeWhile_marked (marked : mark ∈ field) :
    (field ++ rest).takeWhile (· != mark) = field.takeWhile (· != mark) := by
  obtain ⟨front, behind, rfl, plain⟩ := List.eq_append_cons_of_mem marked
  rw [List.append_assoc, List.cons_append, takeWhile_field front _ plain,
    takeWhile_field front _ plain]

end Mark

end LexicalScan.Text
