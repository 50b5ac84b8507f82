import LexicalScan.Proofs.Pointing

/-!
How a drawing is laid out, wherever the diagnostic stands: its row may be missing from the source and
its column may lie anywhere. The last three lines are a bar, the line of the row and the caret. The line
is cut into what indents it, the text that is drawn, and white space at its end. The bars stand in one
column, and a caret below the drawn text points at the character in its column of the line.
-/

namespace LexicalScan

open Alphabet Recognition

namespace Drawing

structure Cut (line indented kept trailing : Text) : Prop where
  whole : line = indented ++ (kept ++ trailing)
  indents : ∀ c ∈ indented, isIndentation c = true
  begins : Stops isIndentation (kept ++ trailing)
  white : ∀ c ∈ trailing, isWhiteSpace c = true
  visible : ∀ c ∈ kept.getLast?, isWhiteSpace c = false

theorem exists_cut (line : Text) : ∃ indented kept trailing, Cut line indented kept trailing := by
  let indented := line.takeWhile isIndentation
  let drawn := line.dropWhile isIndentation
  have parts : indented ++ drawn = line := List.takeWhile_append_dropWhile
  have halves : trimEnd drawn ++ drawn.rtakeWhile isWhiteSpace = drawn :=
    List.rdropWhile_append_rtakeWhile
  have counted : runLength isIndentation (indented ++ drawn) = indented.length := by
    rw [parts]
    rfl
  obtain ⟨indents, begins⟩ := (runLength_append_iff isIndentation indented drawn).mp counted
  refine ⟨indented, trimEnd drawn, drawn.rtakeWhile isWhiteSpace, ?_, indents, ?_, ?_, ?_⟩
  · rw [halves, parts]
  · rwa [halves]
  · intro c
    exact List.mem_rtakeWhile_imp
  · intro c last
    have nonempty : trimEnd drawn ≠ [] := by
      intro empty
      rw [empty] at last
      cases last
    rw [List.getLast?_eq_some_getLast nonempty] at last
    cases last
    exact Bool.eq_false_iff.mpr (List.rdropWhile_last_not isWhiteSpace drawn nonempty)

namespace Cut

variable {original indented kept trailing : Text} (cut : Cut original indented kept trailing)

include cut

theorem indentation_eq : indentation original = indented.length := by
  rw [cut.whole]
  exact (runLength_append_iff isIndentation indented _).mpr ⟨cut.indents, cut.begins⟩

theorem trimEnd_eq : trimEnd (kept ++ trailing) = kept := by
  have white : trailing.all isWhiteSpace = true := List.all_eq_true.mpr cut.white
  rw [trimEnd_append, if_pos white]
  refine List.rdropWhile_eq_self_iff.mpr ?_
  intro nonempty
  rw [cut.visible _ (List.getLast?_eq_some_getLast nonempty)]
  exact Bool.false_ne_true

theorem shown_eq : shown original = kept.map fun c => if c = '\t' then ' ' else c := by
  have behind : original.drop indented.length = kept ++ trailing := by
    rw [cut.whole, List.drop_left]
  rw [shown, cut.indentation_eq, behind, cut.trimEnd_eq]

theorem getElem?_col (col : Nat) (behind : indented.length < col)
    (within : col ≤ indented.length + kept.length) :
    ∃ c, original[col - 1]? = some c ∧ kept[col - indented.length - 1]? = some c := by
  have inside : col - indented.length - 1 < kept.length := by omega
  have place : col - 1 = indented.length + (col - indented.length - 1) := by omega
  refine ⟨kept[col - indented.length - 1], ?_, List.getElem?_eq_getElem inside⟩
  rw [cut.whole, place, List.getElem?_append_right (Nat.le_add_right _ _),
    Nat.add_sub_cancel_left, List.getElem?_append_left inside, List.getElem?_eq_getElem inside]

end Cut

theorem tab_notMem_shown (line : Text) : '\t' ∉ shown line := by
  intro member
  obtain ⟨c, _, same⟩ := List.mem_map.mp member
  split at same
  · contradiction
  · contradiction

theorem idxOf_bar (row : Nat) (rest : Text) :
    (bar row ++ rest).idxOf '|' = (Text.decimal row).length + 1 := by
  have blanks : '|' ∉ List.replicate ((Text.decimal row).length + 1) ' ' := by
    simp [List.mem_replicate]
  rw [bar_eq, List.append_assoc, List.idxOf_append_of_notMem blanks, List.length_replicate,
    List.singleton_append, List.idxOf_cons_self, Nat.add_zero]

theorem idxOf_bar_rows (row width : Nat) (line : Text) :
    ∀ drawnRow ∈ [bar row, lineRow row line, margin row width ++ ['^']],
      drawnRow.idxOf '|' = (Text.decimal row).length + 1 := by
  have inBar := idxOf_bar row []
  have inLine : (lineRow row line).idxOf '|' = (Text.decimal row).length + 1 := by
    have noDigit := Text.notMem_decimal row '|' rfl
    rw [lineRow, List.append_assoc, List.idxOf_append_of_notMem noDigit]
    rfl
  have inCaret := idxOf_bar row ([' '] ++ List.replicate (width - 1) '-' ++ ['^'])
  rw [List.append_nil] at inBar
  simp only [List.append_assoc] at inCaret
  simp only [List.forall_mem_cons, margin, List.append_assoc]
  exact ⟨inBar, inLine, inCaret, by simp⟩

/-- The caret stands under the character in the column of the diagnostic, if that lies in the text that
is drawn. -/
theorem lineRow_caret {original indented kept trailing : Text}
    (cut : Cut original indented kept trailing) (row col : Nat) (behind : indented.length < col)
    (within : col ≤ indented.length + kept.length) :
    ∃ c, original[col - 1]? = some c ∧
      (lineRow row original)[(margin row (caretWidth original col) ++ ['^']).idxOf '^']? =
        some (if c = '\t' then ' ' else c) := by
  obtain ⟨c, inLine, inText⟩ := cut.getElem?_col col behind within
  have place : caretWidth original col - 1 = col - indented.length - 1 := by
    rw [caretWidth, cut.indentation_eq]
    omega
  refine ⟨c, inLine, ?_⟩
  rw [List.idxOf_append_of_notMem (caret_notMem_margin row _), List.idxOf_cons_self, Nat.add_zero,
    lineRow_getElem?, cut.shown_eq, place, List.getElem?_map, inText]
  rfl

theorem newline_notMem_row (source : Text) (row : Nat) :
    '\n' ∉ (Lines.line? source row).getD [] := by
  cases found : Lines.line? source row with
  | none => exact List.not_mem_nil
  | some line => exact Lines.newline_notMem_line? source line row found

theorem draw_rows (diagnostic : Diagnostic) (source : Text) :
    let row := diagnostic.position.row
    let line := (Lines.line? source row).getD []
    let width := caretWidth line diagnostic.position.col
    if 65535 < width then diagnostic.draw source = .error ⟨width⟩
    else ∃ drawn above, diagnostic.draw source = .ok drawn ∧
      drawn.splitOn '\n' = above ++ [bar row, lineRow row line, margin row width ++ ['^'], []] := by
  intro row line width
  split
  · rename_i wide
    exact if_pos wide
  · rename_i narrow
    obtain ⟨above, split⟩ := splitOn_drawn diagnostic line (newline_notMem_row source row)
    exact ⟨_, above, if_neg narrow, split⟩

end Drawing

open Drawing

/-- A drawing fails if the caret would stand too far to the right. Otherwise it ends in a bar, the text
of the row and the caret, and their bars stand in one column. The text is drawn without what indents it
and without white space at its end, each tab as a space, and a caret below it points at the character in
the column of the diagnostic. -/
theorem draw_layout (diagnostic : Diagnostic) (source : Text) :
    let row := diagnostic.position.row
    let col := diagnostic.position.col
    let gutter := List.replicate ((Text.decimal row).length + 1) ' '
    ∃ original indented kept trailing,
      (∀ line, Lines.RowText source row line ↔ line = original) ∧
      Cut original indented kept trailing ∧
      let width := max (col - indented.length) 1
      let text := kept.map fun c => if c = '\t' then ' ' else c
      let barRow := gutter ++ ['|']
      let textRow := Text.decimal row ++ " | ".toList ++ text
      let caretRow := gutter ++ "| ".toList ++ List.replicate (width - 1) '-' ++ ['^']
      (if 65535 < width then diagnostic.draw source = .error ⟨width⟩
        else ∃ drawn above, diagnostic.draw source = .ok drawn ∧
          drawn.splitOn '\n' = above ++ [barRow, textRow, caretRow, []]) ∧
        '\t' ∉ text ∧ '\n' ∉ text ∧
        (∀ drawnRow ∈ [barRow, textRow, caretRow], drawnRow.idxOf '|' = gutter.length) ∧
        (indented.length < col → col ≤ indented.length + text.length →
          ∃ c, original[col - 1]? = some c ∧
            textRow[caretRow.idxOf '^']? = some (if c = '\t' then ' ' else c)) := by
  intro row col gutter
  let original := (Lines.line? source row).getD []
  have only : ∀ line, Lines.RowText source row line ↔ line = original :=
    fun line => (Lines.rowText_iff source line row).trans eq_comm
  obtain ⟨indented, kept, trailing, cut⟩ := exists_cut original
  refine ⟨original, indented, kept, trailing, only, cut, ?_⟩
  intro width text barRow textRow caretRow
  have text_eq : shown original = text := cut.shown_eq
  have width_eq : caretWidth original col = width := by rw [caretWidth, cut.indentation_eq]
  have textRow_eq : lineRow row original = textRow := by rw [lineRow, text_eq]
  have caretRow_eq : margin row (caretWidth original col) ++ ['^'] = caretRow := by
    rw [width_eq]
    simp [margin, bar_eq, caretRow, gutter]
  refine ⟨?_, ?_, ?_, ?_, ?_⟩
  · rw [← width_eq, ← textRow_eq, ← caretRow_eq]
    exact draw_rows diagnostic source
  · rw [← text_eq]
    exact tab_notMem_shown original
  · rw [← text_eq]
    exact newline_notMem_shown original (newline_notMem_row source row)
  · rw [← textRow_eq, ← caretRow_eq, List.length_replicate]
    exact idxOf_bar_rows row _ original
  · intro behind within
    rw [List.length_map] at within
    rw [← textRow_eq, ← caretRow_eq]
    exact lineRow_caret cut row col behind within

end LexicalScan
