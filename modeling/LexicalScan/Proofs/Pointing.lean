import Mathlib.Data.List.DropRight
import LexicalScan.Drawing
import LexicalScan.Proofs.LineLookup
import LexicalScan.Proofs.Refusal

/-!
Where a caret points. The line of a diagnostic is drawn without its indentation and the caret moves left
with it, so the caret stands under the character at the column of the diagnostic. White space at the
end of the line is not drawn, and a caret under it points at nothing. The caret is drawn in a field of
limited width, so a character too far behind the indentation cannot be pointed at.
-/

namespace LexicalScan

open Alphabet

namespace Drawing

theorem trimEnd_front (text : Text) : trimEnd text <+: text :=
  List.rdropWhile_prefix isWhiteSpace text

theorem trimEnd_append (front rest : Text) :
    trimEnd (front ++ rest) =
      if rest.all isWhiteSpace then trimEnd front else front ++ trimEnd rest := by
  have blank : (rest.reverse.dropWhile isWhiteSpace).isEmpty = rest.all isWhiteSpace := by
    rw [Bool.eq_iff_iff, List.isEmpty_iff, List.dropWhile_eq_nil_iff, List.all_eq_true]
    simp
  rw [trimEnd, List.reverse_append, List.dropWhile_append, blank]
  split
  · rfl
  · rw [List.reverse_append, List.reverse_reverse]
    rfl

theorem trimEnd_cons (c : Char) (rest : Text) (visible : (c :: rest).all isWhiteSpace = false) :
    ∃ kept, trimEnd (c :: rest) = c :: kept := by
  have trimmed := trimEnd_append [c] rest
  rw [List.singleton_append] at trimmed
  cases blank : rest.all isWhiteSpace with
  | false =>
      rw [blank, if_neg Bool.false_ne_true] at trimmed
      exact ⟨trimEnd rest, trimmed⟩
  | true =>
      have glyph : isWhiteSpace c = false := by
        simpa only [List.all_cons, blank, Bool.and_true] using visible
      have single : trimEnd [c] = [c] := by simp [trimEnd, glyph]
      rw [blank, if_pos rfl, single] at trimmed
      exact ⟨[], trimmed⟩

theorem drop_indentation (line : Text) :
    line.drop (indentation line) = line.dropWhile isIndentation := by
  have whole := List.takeWhile_append_dropWhile (p := isIndentation) (l := line)
  calc
    line.drop (indentation line)
      = (line.takeWhile isIndentation ++ line.dropWhile isIndentation).drop
          (indentation line) := by rw [whole]
    _ = line.dropWhile isIndentation := List.drop_left

/-! A line that has a character other than indentation, with some text in front of it -/
section Line

variable (front rest : Text) (c : Char) (outside : isIndentation c = false)

include outside

theorem dropWhile_indentation :
    (front ++ c :: rest).dropWhile isIndentation = front.dropWhile isIndentation ++ c :: rest := by
  have stops : (c :: rest).dropWhile isIndentation = c :: rest := by
    rw [List.dropWhile_cons, outside]
    rfl
  rw [List.dropWhile_append, stops]
  split
  · rename_i all
    rw [List.isEmpty_iff.mp all]
    rfl
  · rfl

theorem caretWidth_eq :
    caretWidth (front ++ c :: rest) (1 + front.length) =
      (front.dropWhile isIndentation).length + 1 := by
  have counted : indentation (front ++ c :: rest) = indentation front :=
    Recognition.runLength_append_cons isIndentation front rest c outside
  have parts : indentation front + (front.dropWhile isIndentation).length = front.length := by
    rw [indentation, ← List.length_append, List.takeWhile_append_dropWhile]
  rw [caretWidth, counted]
  omega

/-- The character that the caret stands under, as far as the line is drawn. -/
theorem shown_getElem? :
    (shown (front ++ c :: rest))[(front.dropWhile isIndentation).length]? =
      if (c :: rest).all isWhiteSpace then none else some c := by
  rw [shown, drop_indentation, dropWhile_indentation front rest c outside, List.getElem?_map,
    trimEnd_append]
  cases blank : (c :: rest).all isWhiteSpace with
  | true =>
      -- The character is trimmed with all behind it, and perhaps more.
      have short := (trimEnd_front (front.dropWhile isIndentation)).length_le
      rw [if_pos rfl, if_pos rfl, List.getElem?_eq_none short]
      rfl
  | false =>
      obtain ⟨kept, trimmed⟩ := trimEnd_cons c rest blank
      have noTab : c ≠ '\t' := by
        rintro rfl
        contradiction
      rw [if_neg Bool.false_ne_true, if_neg Bool.false_ne_true, trimmed,
        List.getElem?_append_right (Nat.le_refl _), Nat.sub_self, List.getElem?_cons_zero,
        Option.map_some, if_neg noTab]

end Line

theorem newline_notMem_shown (line : Text) (noNewline : '\n' ∉ line) : '\n' ∉ shown line := by
  intro member
  obtain ⟨c, inside, same⟩ := List.mem_map.mp member
  have inLine : c ∈ line :=
    List.mem_of_mem_drop ((trimEnd_front _).subset inside)
  split at same
  · contradiction
  · subst c
    exact noNewline inLine

theorem bar_eq (row : Nat) :
    bar row = List.replicate ((Text.decimal row).length + 1) ' ' ++ ['|'] := rfl

def lineRow (row : Nat) (line : Text) : Text := Text.decimal row ++ " | ".toList ++ shown line

def margin (row width : Nat) : Text := bar row ++ [' '] ++ List.replicate (width - 1) '-'

theorem length_margin (row width : Nat) :
    (margin row width).length = (Text.decimal row).length + 3 + (width - 1) := by
  rw [margin, bar_eq]
  simp only [List.length_append, List.length_replicate, List.length_singleton]

theorem caret_notMem_margin (row width : Nat) : '^' ∉ margin row width := by
  simp [margin, bar_eq, List.mem_replicate]

theorem newline_notMem_bar (row : Nat) : '\n' ∉ bar row := by
  simp [bar_eq, List.mem_replicate]

theorem newline_notMem_margin (row width : Nat) : '\n' ∉ margin row width := by
  simp [margin, newline_notMem_bar, List.mem_replicate]

theorem newline_notMem_lineRow (row : Nat) (line : Text) (noNewline : '\n' ∉ line) :
    '\n' ∉ lineRow row line := by
  have noDigit := Text.notMem_decimal row '\n' rfl
  simp [lineRow, noDigit, newline_notMem_shown line noNewline]

/-- The column behind the margin is the one behind the same number of characters of the line. -/
theorem lineRow_getElem? (row width : Nat) (line : Text) :
    (lineRow row line)[(margin row width).length]? = (shown line)[width - 1]? := by
  have gutter : (Text.decimal row ++ " | ".toList).length = (Text.decimal row).length + 3 := by
    rw [List.length_append]
    rfl
  rw [lineRow, length_margin, ← gutter, List.getElem?_append_right (Nat.le_add_right _ _),
    Nat.add_sub_cancel_left]

/-- The bar, the line and the caret are the last lines of a drawing, whatever the lines above hold. -/
theorem splitOn_drawn (diagnostic : Diagnostic) (line : Text) (noNewline : '\n' ∉ line) :
    ∃ above, ((rows diagnostic line).flatMap fun row => row ++ ['\n']).splitOn '\n' =
      above ++ [bar diagnostic.position.row, lineRow diagnostic.position.row line,
        margin diagnostic.position.row (caretWidth line diagnostic.position.col) ++ ['^'], []] := by
  let last := [bar diagnostic.position.row, lineRow diagnostic.position.row line,
    margin diagnostic.position.row (caretWidth line diagnostic.position.col) ++ ['^']]
  let top := heading diagnostic.cause ++ '\n' ::
    ("-> ".toList ++ diagnostic.file ++ [':'] ++ diagnostic.position.text)
  have drawn : (rows diagnostic line).flatMap (fun row => row ++ ['\n']) =
      top ++ '\n' :: last.flatMap fun row => row ++ ['\n'] := by
    simp [rows, top, last, lineRow, margin, caret]
  have unbroken : ∀ row ∈ last, '\n' ∉ row := by
    simp [last, newline_notMem_bar, newline_notMem_lineRow _ line noNewline, newline_notMem_margin]
  refine ⟨top.splitOn '\n', ?_⟩
  rw [drawn, List.splitOn_append_cons_self, Lines.splitOn_ended last unbroken]
  rfl

theorem splitOn_rows (diagnostic : Diagnostic) (line : Text) (noNewline : '\n' ∉ line) :
    ∃ above, ((rows diagnostic line).flatMap fun row => row ++ ['\n']).splitOn '\n' =
      above ++ [lineRow diagnostic.position.row line,
        margin diagnostic.position.row (caretWidth line diagnostic.position.col) ++ ['^'], []] := by
  obtain ⟨above, split⟩ := splitOn_drawn diagnostic line noNewline
  refine ⟨above ++ [bar diagnostic.position.row], ?_⟩
  rw [split, List.append_assoc]
  rfl

end Drawing

theorem Lines.all_withoutReturn (line : Text) :
    (Lines.withoutReturn line).all isWhiteSpace = line.all isWhiteSpace := by
  rcases List.eq_nil_or_concat line with rfl | ⟨front, last, rfl⟩
  · rfl
  · rw [List.concat_eq_append, Lines.withoutReturn_concat]
    split
    · rename_i same
      subst same
      have blank : isWhiteSpace '\r' = true := by decide
      simp [blank]
    · rfl

namespace FirstUnknown

variable {source before after : Text} {cause : Char}

theorem not_blank (unknown : FirstUnknown source before cause after) : isBlank cause = false :=
  unknown.unopened .blank (by decide)

theorem not_indentation (unknown : FirstUnknown source before cause after) :
    isIndentation cause = false := by
  have notBlank := unknown.not_blank
  apply Bool.eq_false_iff.mpr
  intro indents
  rw [isIndentation, Bool.or_eq_true, beq_iff_eq, beq_iff_eq] at indents
  rcases indents with rfl | rfl <;> contradiction

theorem not_newline (unknown : FirstUnknown source before cause after) : cause ≠ '\n' := by
  have notBlank := unknown.not_blank
  rintro rfl
  contradiction

theorem line? (unknown : FirstUnknown source before cause after) :
    Lines.line? source (Position.behind before).row =
      some (Text.lastLine before ++
        cause :: Lines.withoutReturn (after.takeWhile (· != '\n'))) := by
  have noReturn : cause ≠ '\r' := by
    have notBlank := unknown.not_blank
    rintro rfl
    contradiction
  have goesOn : (cause :: after).takeWhile (· != '\n') =
      cause :: after.takeWhile (· != '\n') :=
    List.takeWhile_cons_of_pos (bne_iff_ne.mpr unknown.not_newline)
  rw [unknown.split, Lines.line?_behind, goesOn, Lines.withoutReturn_append_cons _ _ _ noReturn]

theorem newline_notMem_line (unknown : FirstUnknown source before cause after) :
    '\n' ∉ Text.lastLine before ++
      cause :: Lines.withoutReturn (after.takeWhile (· != '\n')) := by
  intro member
  rcases List.mem_append.mp member with inFront | inRest
  · exact Text.newline_notMem_lastLine before inFront
  · rcases List.mem_cons.mp inRest with same | behind
    · exact unknown.not_newline same.symm
    · exact Lines.newline_notMem_takeWhile after (Lines.withoutReturn_subset _ behind)

/-- The drawing of a diagnostic at the first unknown character. The caret is as far to the right as
the character stands behind the indentation of its line. -/
theorem draw_eq (unknown : FirstUnknown source before cause after) (diagnostic : Diagnostic)
    (placed : diagnostic.position = Position.behind before) :
    let line := Text.lastLine before ++
      cause :: Lines.withoutReturn (after.takeWhile (· != '\n'))
    let width := ((Text.lastLine before).dropWhile isIndentation).length + 1
    Drawing.caretWidth line diagnostic.position.col = width ∧
      diagnostic.draw source =
        if 65535 < width then .error ⟨width⟩
        else .ok ((Drawing.rows diagnostic line).flatMap fun row => row ++ ['\n']) := by
  intro line width
  have measured : Drawing.caretWidth line diagnostic.position.col = width := by
    rw [placed, Lines.behind_col]
    exact Drawing.caretWidth_eq _ _ cause unknown.not_indentation
  refine ⟨measured, ?_⟩
  rw [Diagnostic.draw, placed, unknown.line?, Option.getD_some, ← placed, measured]
  rfl

end FirstUnknown

/-- In the drawing of what strict reading reports, the first unknown character stands above the caret
unless it is white space with nothing but white space behind it on its line. Then the line ends in
front of the caret. -/
theorem draw_points_at_cause (source drawn : Text) (file? : Option Text) (diagnostic : Diagnostic)
    (refused : strictTokens source file? = .error diagnostic)
    (rendered : diagnostic.draw source = .ok drawn) :
    ∃ before cause after above row margin,
      FirstUnknown source before cause after ∧
        drawn.splitOn '\n' = above ++ [row, margin ++ ['^'], []] ∧ '^' ∉ margin ∧
        row[margin.length]? =
          if (cause :: after.takeWhile (· != '\n')).all isWhiteSpace then none else some cause := by
  obtain ⟨before, cause, after, unknown, placed⟩ :=
    firstUnknown_of_error source file? diagnostic refused
  obtain ⟨measured, drawing⟩ := unknown.draw_eq diagnostic placed
  have noNewline := unknown.newline_notMem_line
  -- The drawing is there, so the caret is not too far to the right.
  rw [rendered] at drawing
  split at drawing
  · cases drawing
  · cases drawing
    obtain ⟨above, split⟩ := Drawing.splitOn_rows _ _ noNewline
    refine ⟨before, cause, after, above, _, _, unknown, split, Drawing.caret_notMem_margin _ _, ?_⟩
    rw [Drawing.lineRow_getElem?, measured, Nat.add_sub_cancel,
      Drawing.shown_getElem? _ _ cause unknown.not_indentation, List.all_cons,
      Lines.all_withoutReturn, List.all_cons]

theorem draw_points_at_cause_behind_string :
    strictTokens "a\r\n\t \"q\n\t\tr\"\t~ \u00a0\n".toList (some "demo.src".toList) =
        .error ⟨.unrecognised ['~'], ⟨3, 6⟩, "demo.src".toList⟩ ∧
      Diagnostic.draw ⟨.unrecognised ['~'], ⟨3, 6⟩, "demo.src".toList⟩
          "a\r\n\t \"q\n\t\tr\"\t~ \u00a0\n".toList =
        .ok "Error: UnrecognisedToken\n-> demo.src:3:6\n  |\n3 | r\" ~\n  | ---^\n".toList ∧
      ∃ before cause after above row margin,
        FirstUnknown "a\r\n\t \"q\n\t\tr\"\t~ \u00a0\n".toList before cause after ∧
          "Error: UnrecognisedToken\n-> demo.src:3:6\n  |\n3 | r\" ~\n  | ---^\n".toList.splitOn '\n' =
            above ++ [row, margin ++ ['^'], []] ∧ '^' ∉ margin ∧
          row[margin.length]? =
            if (cause :: after.takeWhile (· != '\n')).all isWhiteSpace then none else some cause := by
  have refused := strictTokens_complaint "a\r\n\t \"q\n\t\tr\"\t~ \u00a0\n".toList
    (some "demo.src".toList) ⟨.unrecognised ['~'], ⟨3, 6⟩, "demo.src".toList⟩ (by decide +kernel)
  have rendered : Diagnostic.draw ⟨.unrecognised ['~'], ⟨3, 6⟩, "demo.src".toList⟩
      "a\r\n\t \"q\n\t\tr\"\t~ \u00a0\n".toList =
    .ok "Error: UnrecognisedToken\n-> demo.src:3:6\n  |\n3 | r\" ~\n  | ---^\n".toList := rfl
  exact ⟨refused, rendered, draw_points_at_cause _ _ _ _ refused rendered⟩

/-- A wide blank at the end of its line is unknown, but it is not drawn. -/
theorem wide_blank_not_drawn :
    ∃ diagnostic drawn above row margin,
      strictTokens ['\u00a0'] none = .error diagnostic ∧ diagnostic.draw ['\u00a0'] = .ok drawn ∧
        tokens ['\u00a0'] = [⟨.unknown, ['\u00a0'], some ⟨1, 1⟩⟩, Token.endOfInput] ∧
        drawn.splitOn '\n' = above ++ [row, margin ++ ['^'], []] ∧ '^' ∉ margin ∧
        row[margin.length]? ≠ some '\u00a0' :=
  ⟨⟨.unrecognised ['\u00a0'], ⟨1, 1⟩, "shell".toList⟩,
    "Error: UnrecognisedToken\n-> shell:1:1\n  |\n1 | \n  | ^\n".toList,
    ["Error: UnrecognisedToken".toList, "-> shell:1:1".toList, "  |".toList], "1 | ".toList,
    "  | ".toList, strictTokens_complaint _ _ _ (by decide +kernel), rfl, by decide +kernel,
    by decide, by decide, by decide⟩

/-- What strict reading reports can be drawn exactly if fewer characters than the field of the caret
is wide stand between the indentation of its line and the first unknown character. -/
theorem draw_strict_iff (source : Text) (file? : Option Text) (diagnostic : Diagnostic)
    (refused : strictTokens source file? = .error diagnostic) :
    ∃ before cause after, FirstUnknown source before cause after ∧
      ((∃ drawn, diagnostic.draw source = .ok drawn) ↔
        ((Text.lastLine before).dropWhile isIndentation).length < 65535) := by
  obtain ⟨before, cause, after, unknown, placed⟩ :=
    firstUnknown_of_error source file? diagnostic refused
  refine ⟨before, cause, after, unknown, ?_⟩
  rw [(unknown.draw_eq diagnostic placed).2]
  split
  · rename_i wide
    apply iff_of_false
    · rintro ⟨drawn, fits⟩
      cases fits
    · omega
  · rename_i narrow
    apply iff_of_true
    · exact ⟨_, rfl⟩
    · omega

theorem draw_strict_unterminated :
    strictTokens "x = 1;\n\t 'abc\\'\n".toList none =
        .error ⟨.unterminated '\'', ⟨2, 3⟩, "shell".toList⟩ ∧
      ∃ before cause after, FirstUnknown "x = 1;\n\t 'abc\\'\n".toList before cause after ∧
        ((∃ drawn, Diagnostic.draw ⟨.unterminated '\'', ⟨2, 3⟩, "shell".toList⟩
            "x = 1;\n\t 'abc\\'\n".toList = .ok drawn) ↔
          ((Text.lastLine before).dropWhile isIndentation).length < 65535) := by
  have refused := strictTokens_complaint "x = 1;\n\t 'abc\\'\n".toList none
    ⟨.unterminated '\'', ⟨2, 3⟩, "shell".toList⟩ (by decide +kernel)
  exact ⟨refused, draw_strict_iff _ _ _ refused⟩

theorem firstUnknown_behind_symbol (count : Nat) :
    ∃ after, FirstUnknown (List.replicate (count + 1) 'a' ++ ['~'])
      (List.replicate (count + 1) 'a') '~' after := by
  let symbol : Piece := (.symbol, List.replicate (count + 1) 'a')
  let mark : Piece := (.unknown, ['~'])
  have symbolHeads : Recognition.Heads symbol ['~'] := by
    rw [Recognition.heads_known_iff .symbol _ _ (by decide)]
    refine ⟨⟨'a', List.replicate count 'a', by decide, ?_, rfl⟩, ?_, by simp, by simp⟩
    · intro c member
      rw [List.eq_of_mem_replicate member]
      decide
    · exact (Recognition.stops_cons _ '~' []).mpr (by decide)
  have markHeads : Recognition.Heads mark [] := rfl
  have source_eq : printed [symbol, mark] = List.replicate (count + 1) 'a' ++ ['~'] := by
    simp [printed, symbol, mark]
  have outlined : outline (printed [symbol, mark]) = [symbol, mark, Token.endOfInput.piece] := by
    apply (outline_printed_iff [symbol, mark]).mpr
    rw [forall_suffix_cons, forall_suffix_cons]
    refine ⟨symbolHeads, markHeads, ?_⟩
    intro piece later suffix
    cases List.suffix_nil.mp suffix
  rw [source_eq] at outlined
  have found := firstUnknown_of_outline _ [symbol] _ '~' outlined (by simp [symbol])
  simpa [printed, symbol] using found

theorem draw_behind_symbol (count : Nat) (wide : 65535 < count + 2) :
    ∃ diagnostic, strictTokens (List.replicate (count + 1) 'a' ++ ['~']) none = .error diagnostic ∧
      diagnostic.draw (List.replicate (count + 1) 'a' ++ ['~']) = .error ⟨count + 2⟩ := by
  obtain ⟨after, unknown⟩ := firstUnknown_behind_symbol count
  refine ⟨_, strictTokens_unknown _ _ after '~' none unknown, ?_⟩
  have noNewline : '\n' ∉ List.replicate (count + 1) 'a' := by simp
  have oneLine := Text.lastLine_unbroken _ noNewline
  have unindented : (List.replicate (count + 1) 'a').dropWhile isIndentation =
      List.replicate (count + 1) 'a' := by
    rw [List.replicate_succ, List.dropWhile_cons_of_neg (by decide)]
  rw [(unknown.draw_eq _ rfl).2, oneLine, unindented, List.length_replicate, if_pos wide]

/-- Behind a symbol that is as long as the field of the caret is wide, an unknown character cannot be
pointed at. -/
theorem far_cause_not_drawn :
    ∃ diagnostic, strictTokens (List.replicate 65535 'a' ++ ['~']) none = .error diagnostic ∧
      diagnostic.draw (List.replicate 65535 'a' ++ ['~']) = .error ⟨65536⟩ :=
  draw_behind_symbol 65534 (by decide)

end LexicalScan
