import LexicalScan.Lines
import LexicalScan.Proofs.Cursor

/-!
The line around a place. The newlines in front of a place number its row, so the line of that row is
the last line of the text in front of the place, together with the text behind it up to the next
newline. A newline parts a text into two whose rows follow one another, and between two newlines there is
one row.
-/

namespace LexicalScan

namespace Lines

theorem length_splitOn (text : Text) : (text.splitOn '\n').length = text.count '\n' + 1 := by
  induction text with
  | nil => rfl
  | cons c rest ih =>
      rw [List.splitOn_eq_splitOnP] at ih
      rw [List.splitOn_eq_splitOnP, List.splitOnP_cons_eq_if_modifyHead, List.count_cons]
      split
      · rw [List.length_cons, ih]
      · rw [List.length_modifyHead, ih]

theorem takeWhile_unbroken (line : Text) (noNewline : '\n' ∉ line) :
    line.takeWhile (· != '\n') = line := by
  have unbroken := Text.takeWhile_unmarked line [] noNewline
  rwa [List.append_nil, List.takeWhile_nil, List.append_nil] at unbroken

theorem newline_notMem_takeWhile (text : Text) : '\n' ∉ text.takeWhile (· != '\n') := by
  intro member
  have inLine : (text.takeWhile (· != '\n')).all (· != '\n') = true := List.all_takeWhile
  have differs := List.all_eq_true.mp inLine '\n' member
  contradiction

theorem first_splitOn (text : Text) :
    (text.splitOn '\n')[0]? = some (text.takeWhile (· != '\n')) := by
  by_cases newline : '\n' ∈ text
  · obtain ⟨line, rest, rfl, noNewline⟩ := List.eq_append_cons_of_mem newline
    rw [List.splitOn_append_cons_self, List.splitOn_eq_singleton noNewline,
      Text.takeWhile_field line rest noNewline]
    rfl
  · rw [List.splitOn_eq_singleton newline, takeWhile_unbroken text newline]
    rfl

end Lines

namespace Text

theorem newline_notMem_lastLine (text : Text) : '\n' ∉ lastLine text := by
  intro member
  exact Lines.newline_notMem_takeWhile text.reverse (List.mem_reverse.mp member)

theorem lastLine_unbroken (text : Text) (noNewline : '\n' ∉ text) : lastLine text = text := by
  have reversed : '\n' ∉ text.reverse := by simpa using noNewline
  rw [lastLine, Lines.takeWhile_unbroken text.reverse reversed, List.reverse_reverse]

theorem split_last (c : Char) (text : Text) (member : c ∈ text) :
    ∃ front rest, text = front ++ c :: rest ∧ c ∉ rest := by
  obtain ⟨rest, front, split, absent⟩ :=
    List.eq_append_cons_of_mem (List.mem_reverse.mpr member)
  refine ⟨front.reverse, rest.reverse, ?_, ?_⟩
  · rw [← List.reverse_reverse text, split]
    simp
  · rwa [List.mem_reverse]

theorem lastLine_split (text : Text) (newline : '\n' ∈ text) :
    ∃ front, text = front ++ '\n' :: lastLine text := by
  obtain ⟨front, line, rfl, noNewline⟩ := split_last '\n' text newline
  have reversed : '\n' ∉ line.reverse := by simpa using noNewline
  have last : lastLine (front ++ '\n' :: line) = line := by
    rw [lastLine, List.reverse_append, List.reverse_cons, List.append_assoc, List.singleton_append,
      takeWhile_field line.reverse _ reversed, List.reverse_reverse]
  exact ⟨front, by rw [last]⟩

end Text

namespace Lines

theorem splitOn_behind (before rest : Text) :
    ((before ++ rest).splitOn '\n')[before.count '\n']? =
      some (Text.lastLine before ++ rest.takeWhile (· != '\n')) := by
  by_cases newline : '\n' ∈ before
  · obtain ⟨front, split⟩ := Text.lastLine_split before newline
    have noNewline := Text.newline_notMem_lastLine before
    generalize Text.lastLine before = last at split noNewline
    subst split
    have numbered : (front ++ '\n' :: last).count '\n' = (front.splitOn '\n').length := by
      rw [length_splitOn, List.count_append, List.count_cons_self,
        List.count_eq_zero_of_not_mem noNewline]
    rw [numbered, List.append_assoc, List.cons_append, List.splitOn_append_cons_self,
      List.getElem?_append_right (Nat.le_refl _), Nat.sub_self, first_splitOn,
      Text.takeWhile_unmarked last rest noNewline]
  · rw [List.count_eq_zero_of_not_mem newline, Text.lastLine_unbroken before newline, first_splitOn,
      Text.takeWhile_unmarked before rest newline]

theorem splitOn_ended (lines : List Text) (noNewline : ∀ line ∈ lines, '\n' ∉ line) :
    (lines.flatMap fun line => line ++ ['\n']).splitOn '\n' = lines ++ [[]] := by
  induction lines with
  | nil => exact List.splitOn_nil '\n'
  | cons line later ih =>
      obtain ⟨first, others⟩ := List.forall_mem_cons.mp noNewline
      rw [List.flatMap_cons, List.append_assoc, List.singleton_append,
        List.splitOn_append_cons_self_of_not_mem first, ih others, List.cons_append]

theorem newline_notMem_splitOn (text : Text) : ∀ line ∈ text.splitOn '\n', '\n' ∉ line := by
  induction text with
  | nil => simp
  | cons c rest ih =>
      rw [List.splitOn_cons_eq_if_modifyHead]
      split
      · exact List.forall_mem_cons.mpr ⟨List.not_mem_nil, ih⟩
      · rename_i other
        obtain ⟨first, later, pieces⟩ :=
          List.exists_cons_of_ne_nil (List.splitOn_ne_nil '\n' rest)
        rw [pieces] at ih ⊢
        obtain ⟨unbroken, others⟩ := List.forall_mem_cons.mp ih
        refine List.forall_mem_cons.mpr ⟨?_, others⟩
        intro member
        rcases List.mem_cons.mp member with same | inside
        · exact other (beq_iff_eq.mpr same.symm)
        · exact unbroken inside

/-- The row of a place has a line, and what stands there is what stands around the place. -/
theorem line?_behind (before rest : Text) :
    line? (before ++ rest) (Position.behind before).row =
      some (withoutReturn (Text.lastLine before ++ rest.takeWhile (· != '\n'))) := by
  have numbered : (Position.behind before).row - 1 = before.count '\n' := by
    simp [Position.behind]
  have positive : (Position.behind before).row ≠ 0 := by
    simp [Position.behind]
  rw [line?, if_neg positive, numbered, splitOn_behind]
  rfl

theorem behind_eq (before : Text) :
    Position.behind before = ⟨before.count '\n' + 1, (Text.lastLine before).length + 1⟩ := by
  rw [Position.behind, Text.lastLine, List.length_reverse, Nat.add_comm 1, Nat.add_comm 1]

theorem behind_col (before : Text) :
    (Position.behind before).col = 1 + (Text.lastLine before).length := by
  rw [behind_eq]
  exact Nat.add_comm _ _

theorem withoutReturn_concat (line : Text) (c : Char) :
    withoutReturn (line ++ [c]) = if c = '\r' then line else line ++ [c] := by
  simp only [withoutReturn, List.getLast?_concat, List.dropLast_concat, Option.some.injEq]

/-- A carriage return is cut off only at the end, so not in front of another character. -/
theorem withoutReturn_append_cons (front rest : Text) (c : Char) (noReturn : c ≠ '\r') :
    withoutReturn (front ++ c :: rest) = front ++ c :: withoutReturn rest := by
  rcases List.eq_nil_or_concat rest with rfl | ⟨before, last, rfl⟩
  · rw [withoutReturn_concat, if_neg noReturn]
    rfl
  · have oneMore : front ++ c :: before.concat last = (front ++ c :: before) ++ [last] := by
      simp
    rw [oneMore, withoutReturn_concat, List.concat_eq_append, withoutReturn_concat]
    split
    · rfl
    · simp

theorem prefix_withoutReturn (text rest : Text) (noReturn : text.getLast? ≠ some '\r') :
    text <+: withoutReturn (text ++ rest) := by
  rcases List.eq_nil_or_concat text with rfl | ⟨front, last, rfl⟩
  · exact List.nil_prefix
  · have plain : last ≠ '\r' := by simpa using noReturn
    have joined : front.concat last ++ rest = front ++ last :: rest := by simp
    rw [joined, withoutReturn_append_cons front rest last plain]
    refine ⟨withoutReturn rest, ?_⟩
    simp

theorem withoutReturn_subset (line : Text) : withoutReturn line ⊆ line := by
  rw [withoutReturn]
  split
  · exact List.dropLast_subset line
  · exact List.Subset.refl line

theorem newline_notMem_line? (source line : Text) (row : Nat)
    (found : line? source row = some line) : '\n' ∉ line := by
  rw [line?] at found
  split at found
  · cases found
  · obtain ⟨whole, piece, rfl⟩ := Option.map_eq_some_iff.mp found
    intro member
    exact newline_notMem_splitOn source whole (List.mem_of_getElem? piece)
      (withoutReturn_subset whole member)

theorem line?_zero (source : Text) : line? source 0 = none := rfl

theorem line?_succ (source : Text) (index : Nat) :
    line? source (index + 1) = (source.splitOn '\n')[index]?.map withoutReturn := rfl

/-- The rows of the text in front of a newline come first, then those of the text behind it. -/
theorem line?_append (first second : Text) (row : Nat) :
    line? (first ++ '\n' :: second) row =
      if row ≤ 1 + first.count '\n' then line? first row
      else line? second (row - (1 + first.count '\n')) := by
  cases row with
  | zero => rw [line?_zero, line?_zero, if_pos (Nat.zero_le _)]
  | succ index =>
      rw [line?_succ, List.splitOn_append_cons_self, List.getElem?_append, length_splitOn]
      split
      · rename_i inFirst
        rw [if_pos (by omega), line?_succ]
      · rename_i below
        have moved : index + 1 - (1 + first.count '\n') = index - (first.count '\n' + 1) + 1 := by
          omega
        rw [if_neg (by omega), moved, line?_succ]

theorem withoutReturn_eq_iff (text line : Text) :
    withoutReturn text = line ↔
      text = line ++ ['\r'] ∨ text = line ∧ text.getLast? ≠ some '\r' := by
  constructor
  · rintro rfl
    by_cases ended : text.getLast? = some '\r'
    · obtain ⟨front, rfl⟩ := List.getLast?_eq_some_iff.mp ended
      rw [withoutReturn_concat, if_pos rfl]
      exact Or.inl rfl
    · rw [withoutReturn, if_neg ended]
      exact Or.inr ⟨rfl, ended⟩
  · rintro (rfl | ⟨rfl, plain⟩)
    · rw [withoutReturn_concat, if_pos rfl]
    · rw [withoutReturn, if_neg plain]

theorem line?_unbroken (text line : Text) (row : Nat) (noNewline : '\n' ∉ text) :
    line? text row = some line ↔ row = 1 ∧ withoutReturn text = line := by
  cases row with
  | zero => simp [line?_zero]
  | succ index =>
      rw [line?_succ, List.splitOn_eq_singleton noNewline]
      cases index <;> simp

theorem isSome_line?_iff (source : Text) (row : Nat) :
    (line? source row).isSome = true ↔ 1 ≤ row ∧ row ≤ 1 + source.count '\n' := by
  cases row with
  | zero => simp [line?_zero]
  | succ index =>
      rw [line?_succ, Option.isSome_map, Option.isSome_iff_ne_none, ne_eq, List.getElem?_eq_none_iff,
        length_splitOn]
      omega

/-- A part of a text that fills a row: newlines or the ends of the text stand on both sides of it. -/
structure Between (source front whole rest : Text) : Prop where
  split : source = front ++ (whole ++ rest)
  begins : ∀ c ∈ front.getLast?, c = '\n'
  unbroken : '\n' ∉ whole
  ends : ∀ c ∈ rest.head?, c = '\n'

theorem Between.line? {source front whole rest : Text} (row : Between source front whole rest) :
    line? source (1 + front.count '\n') = some (withoutReturn whole) := by
  have fresh : Text.lastLine front = [] := by
    rcases List.eq_nil_or_concat front with rfl | ⟨above, last, rfl⟩
    · rfl
    · have newline : last = '\n' := row.begins last (by simp)
      simp [Text.lastLine, newline]
  have cut : rest.takeWhile (· != '\n') = [] := by
    cases rest with
    | nil => rfl
    | cons c below => simp [row.ends c rfl]
  have around := line?_behind front (whole ++ rest)
  rw [fresh, Text.takeWhile_unmarked whole rest row.unbroken, cut, List.append_nil,
    List.nil_append] at around
  rw [row.split]
  exact around

theorem between_of_unbroken (whole rest : Text) (unbroken : '\n' ∉ whole)
    (ends : ∀ c ∈ rest.head?, c = '\n') : Between (whole ++ rest) [] whole rest :=
  ⟨rfl, nofun, unbroken, ends⟩

theorem Between.below {source front whole rest : Text} (first : Text)
    (row : Between source front whole rest) :
    Between (first ++ '\n' :: source) (first ++ '\n' :: front) whole rest := by
  refine ⟨?_, ?_, row.unbroken, row.ends⟩
  · rw [row.split, List.append_assoc, List.cons_append]
  · intro c last
    rw [List.getLast?_append, List.getLast?_cons] at last
    cases inFront : front.getLast? with
    | none => simpa [inFront] using last.symm
    | some behind =>
        rw [inFront] at last
        cases last
        exact row.begins _ inFront

theorem exists_between (row : Nat) (source line : Text) (found : line? source row = some line) :
    ∃ front whole rest, Between source front whole rest ∧ row = 1 + front.count '\n' ∧
      withoutReturn whole = line := by
  induction row generalizing source with
  | zero => cases found
  | succ index ih =>
      by_cases newline : '\n' ∈ source
      · obtain ⟨first, second, rfl, unbroken⟩ := List.eq_append_cons_of_mem newline
        have counted := List.count_eq_zero_of_not_mem unbroken
        rw [line?_append, counted] at found
        cases index with
        | zero =>
            obtain ⟨_, whole⟩ := (line?_unbroken first line 1 unbroken).mp found
            exact ⟨[], first, _, between_of_unbroken first _ unbroken (by simp), rfl, whole⟩
        | succ index =>
            rw [if_neg (by omega)] at found
            obtain ⟨front, whole, rest, between, numbered, kept⟩ := ih second found
            refine ⟨_, whole, rest, between.below first, ?_, kept⟩
            rw [List.count_append, List.count_cons_self, counted, numbered]
            omega
      · obtain ⟨numbered, whole⟩ := (line?_unbroken source line _ newline).mp found
        refine ⟨[], source, [], ?_, numbered, whole⟩
        have alone := between_of_unbroken source [] newline nofun
        rwa [List.append_nil] at alone

/-- The text of a row, without one carriage return at its end. A row that the source does not have is
empty. -/
inductive RowText (source : Text) : Nat → Text → Prop where
  | returned {front line rest : Text} :
      Between source front (line ++ ['\r']) rest → RowText source (1 + front.count '\n') line
  | plain {front line rest : Text} :
      Between source front line rest → line.getLast? ≠ some '\r' →
        RowText source (1 + front.count '\n') line
  | missing {row : Nat} : row = 0 ∨ 1 + source.count '\n' < row → RowText source row []

theorem rowText_iff (source line : Text) (row : Nat) :
    RowText source row line ↔ (line? source row).getD [] = line := by
  constructor
  · intro text
    cases text with
    | returned between => rw [between.line?, withoutReturn_concat, if_pos rfl, Option.getD_some]
    | plain between noReturn => rw [between.line?, withoutReturn, if_neg noReturn, Option.getD_some]
    | missing outside =>
        cases found : line? source row with
        | none => rfl
        | some line =>
            have inside := (isSome_line?_iff source row).mp (by rw [found]; rfl)
            omega
  · rintro rfl
    cases found : line? source row with
    | none =>
        apply RowText.missing
        have outside := mt (isSome_line?_iff source row).mpr (by rw [found]; exact Bool.false_ne_true)
        omega
    | some line =>
        obtain ⟨front, whole, rest, between, rfl, kept⟩ := exists_between row source line found
        rcases (withoutReturn_eq_iff whole line).mp kept with rfl | ⟨rfl, noReturn⟩
        · exact .returned between
        · exact .plain between noReturn

/-- The rows of a text are those of its parts around any newline, one part behind the other. A text
without newlines has one row, which is the text but for one carriage return at its end. So the rows are
numbered from one and there is one more of them than newlines, which no row holds. -/
theorem line?_composed (source first second line : Text) (row : Nat) :
    line? (first ++ '\n' :: second) row =
        (if row ≤ 1 + first.count '\n' then line? first row
          else line? second (row - (1 + first.count '\n'))) ∧
      ('\n' ∉ source → (line? source row = some line ↔
        row = 1 ∧ (source = line ++ ['\r'] ∨ source = line ∧ source.getLast? ≠ some '\r'))) ∧
      ((line? source row).isSome = true ↔ 1 ≤ row ∧ row ≤ 1 + source.count '\n') ∧
      (line? source row = some line → '\n' ∉ line) := by
  refine ⟨line?_append first second row, ?_, isSome_line?_iff source row, ?_⟩
  · intro noNewline
    rw [line?_unbroken source line row noNewline, withoutReturn_eq_iff]
  · exact newline_notMem_line? source line row

theorem line?_composed_returns :
    let first := "a\r\n\r".toList
    let second := "b\r\r".toList
    line? (first ++ '\n' :: second) 3 = line? second 1 ∧
      '\n' ∉ second ∧ line? second 1 = some ['b', '\r'] ∧ '\n' ∉ ['b', '\r'] := by
  intro first second
  have noNewline : '\n' ∉ second := by decide
  obtain ⟨parted, unbroken, _, keeps⟩ := line?_composed second first second ['b', '\r'] 1
  have found : line? second 1 = some ['b', '\r'] := (unbroken noNewline).mpr ⟨rfl, Or.inl rfl⟩
  exact ⟨(line?_composed second first second ['b', '\r'] 3).1, noNewline, found, keeps found⟩

end Lines

end LexicalScan
