import LexicalScan.Proofs.Openings

/-!
Pieces in front of other text. Whether a piece is taken off the front depends on the piece and, apart
from it, on what the text behind must not begin with or hold.
-/

namespace LexicalScan

abbrev Piece := Kind × Text

namespace Recognition

open Alphabet Grammar

/-- Whether a piece is taken off the front when some text stands behind it. -/
def Heads (piece : Piece) (rest : Text) : Prop :=
  classify (piece.2 ++ rest) = (piece.1, piece.2.length)

/-- Whether every quote of one sort in a text stands behind backslashes of odd number. -/
def Unclosed (quote : Char) (rest : Text) : Prop :=
  ∀ before after, rest = before ++ quote :: after → ¬ Paired before

/-- What must be true of the text behind a piece for the piece to be taken as it is. -/
structure Border (piece : Piece) (rest : Text) : Prop where
  ends : Ends piece.1 piece.2 rest
  unclosed : ∀ quote, piece = (.unknown, [quote]) → isQuote quote = true → Unclosed quote rest

theorem ends_nil (kind : Kind) (piece : Text) : Ends kind piece [] := by
  cases kind with
  | comment | blank | operator | symbol => exact stops_nil _
  | number =>
      refine ⟨stops_nil _, ?_, ?_⟩
      · rintro _ ⟨mark, digit, tail, split, _⟩
        cases split
      · rintro _ ⟨digit, tail, split, _⟩
        cases split
  | punctuation | string | unknown | endOfInput => trivial

theorem unclosed_nil (quote : Char) : Unclosed quote [] := by
  intro before after split
  exact absurd split.symm (List.append_ne_nil_of_right_ne_nil before (List.cons_ne_nil _ _))

theorem symbol?_eq_none_iff (c : Char) (rest : Text) :
    symbol? (c :: rest) = none ↔ isLetter c = false := by
  simp [symbol?]

/-- What stands behind an operator that ends there does not make a comment of it. -/
theorem comment?_behind (piece rest : Text) (nonempty : piece ≠ [])
    (ends : Stops isOperator rest) : comment? (piece ++ rest) = none ↔ comment? piece = none := by
  match piece with
  | [] => exact absurd rfl nonempty
  | [c] =>
      have alone : comment? [c] = none := by simp [comment?]
      rw [alone]
      refine ⟨fun _ => rfl, fun _ => ?_⟩
      cases found : comment? ([c] ++ rest) with
      | none => rfl
      | some length =>
          obtain ⟨behind, split, _⟩ := (comment?_eq_some_iff _ length).mp found
          cases split
          rw [stops_cons] at ends
          contradiction
  | first :: second :: tail =>
      by_cases slashes : first = '/' ∧ second = '/'
      · obtain ⟨rfl, rfl⟩ := slashes
        simp [comment?]
      · have noComment : ∀ behind, comment? (first :: second :: behind) = none := by
          intro behind
          cases found : comment? (first :: second :: behind) with
          | none => rfl
          | some length =>
              obtain ⟨_, split, _⟩ := (comment?_eq_some_iff _ length).mp found
              cases split
              exact absurd ⟨rfl, rfl⟩ slashes
        simp [noComment]

theorem string?_eq_none_iff (c : Char) (rest : Text) :
    string? (c :: rest) = none ↔ (isQuote c = true → Unclosed c rest) := by
  rw [string?]
  cases opensString : isQuote c with
  | false => simp
  | true =>
      rw [if_pos rfl, closing?_eq_none_iff c (quote_ne_backslash opensString)]
      exact ⟨fun unclosed _ => unclosed, fun unclosed => unclosed rfl⟩

/-- A character is taken as an unknown one if it opens no kind, or opens a string that never
closes. -/
theorem unmatched_iff (c : Char) (rest : Text) :
    (∀ kind, length? kind (c :: rest) = none) ↔
      (∀ kind, kind ≠ .string → opens kind c = false) ∧ (isQuote c = true → Unclosed c rest) := by
  constructor
  · intro unmatched
    refine ⟨?_, (string?_eq_none_iff c rest).mp (unmatched .string)⟩
    intro kind noString
    apply Bool.eq_false_iff.mpr
    intro begins
    -- A slash opens a comment only with another behind it, but an operator in any case.
    by_cases comment : kind = .comment
    · subst kind
      have slash : c = '/' := by simpa [opens] using begins
      subst c
      exact length?_opened .operator '/' rest rfl (by decide) (by decide) (unmatched .operator)
    · exact length?_opened kind c rest begins comment noString (unmatched kind)
  · rintro ⟨closed, unclosed⟩ kind
    by_cases string : kind = .string
    · subst kind
      exact (string?_eq_none_iff c rest).mpr unclosed
    · exact length?_unopened kind c rest (closed kind string)

theorem heads_unknown_iff (piece rest : Text) :
    Heads (.unknown, piece) rest ↔
      ∃ c, piece = [c] ∧ (∀ kind, kind ≠ .string → opens kind c = false) ∧
        (isQuote c = true → Unclosed c rest) := by
  rw [Heads, classify_unknown_iff, List.length_eq_one_iff]
  constructor
  · rintro ⟨⟨c, rfl⟩, unmatched⟩
    exact ⟨c, rfl, (unmatched_iff c rest).mp unmatched⟩
  · rintro ⟨c, rfl, both⟩
    exact ⟨⟨c, rfl⟩, (unmatched_iff c rest).mpr both⟩

theorem heads_known_iff (kind : Kind) (piece rest : Text) (known : kind ≠ .unknown) :
    Heads (kind, piece) rest ↔
      Language kind piece ∧ Ends kind piece rest ∧
        (kind = .operator → comment? piece = none) ∧ (kind = .number → symbol? piece = none) := by
  rw [Heads, classify_eq_iff kind _ _ known, length?_append_iff, and_assoc]
  -- A piece that ends in its place already tells whether another kind goes before its own.
  refine and_congr_right fun valid => and_congr_right fun ends => ?_
  have nonempty := language_ne_nil kind piece valid
  refine and_congr ?_ ?_
  · refine imp_congr_right ?_
    rintro rfl
    exact comment?_behind piece rest nonempty ends
  · refine imp_congr_right fun _ => ?_
    obtain ⟨c, tail, rfl⟩ := List.exists_cons_of_ne_nil nonempty
    rw [List.cons_append, symbol?_eq_none_iff, symbol?_eq_none_iff]

/-- A piece is taken in front of some text exactly if it is taken alone and the border to the text is
sound. -/
theorem heads_iff (piece : Piece) (rest : Text) :
    Heads piece rest ↔ Heads piece [] ∧ Border piece rest := by
  obtain ⟨kind, value⟩ := piece
  by_cases unknown : kind = .unknown
  · subst kind
    rw [heads_unknown_iff, heads_unknown_iff]
    constructor
    · rintro ⟨c, rfl, closed, unclosed⟩
      refine ⟨⟨c, rfl, closed, fun _ => unclosed_nil c⟩, trivial, ?_⟩
      intro quote same isQuote
      cases same
      exact unclosed isQuote
    · rintro ⟨⟨c, rfl, closed, _⟩, border⟩
      exact ⟨c, rfl, closed, border.unclosed c rfl⟩
  · rw [heads_known_iff kind value rest unknown, heads_known_iff kind value [] unknown]
    constructor
    · rintro ⟨valid, ends, order⟩
      refine ⟨⟨valid, ends_nil kind value, order⟩, ends, ?_⟩
      rintro quote same
      cases same
      exact absurd rfl unknown
    · rintro ⟨⟨valid, _, order⟩, border⟩
      exact ⟨valid, border.ends, order⟩

theorem heads_cons (kind : Kind) (value rest : Text) (heads : Heads (kind, value) rest) :
    ∃ c tail, value = c :: tail := by
  apply List.exists_cons_of_ne_nil
  have positive := classifyBy_pos precedence (value ++ rest)
  rw [← classify, heads] at positive
  exact List.length_pos_iff.mp positive

theorem Heads.nonempty {piece : Piece} {rest : Text} (heads : Heads piece rest) :
    piece.2 ≠ [] := by
  obtain ⟨c, tail, value⟩ := heads_cons piece.1 piece.2 rest heads
  rw [value]
  exact List.cons_ne_nil c tail

/-! What the first character of a piece tells of its kind, if the piece is taken alone -/
section Alone

variable (kind : Kind) (c : Char) (tail : Text)

theorem opens_of_heads (alone : Heads (kind, c :: tail) []) (known : kind ≠ .unknown) :
    opens kind c = true :=
  opens_of_language kind c tail ((heads_known_iff kind _ [] known).mp alone).1

theorem family_of_heads (alone : Heads (kind, c :: tail) []) (other : Kind)
    (noString : other ≠ .string) (begins : opens other c = true) :
    family kind = family other := by
  by_cases unknown : kind = .unknown
  · subst kind
    obtain ⟨d, split, closed, _⟩ := (heads_unknown_iff _ []).mp alone
    cases split
    rw [closed other noString] at begins
    cases begins
  · rw [← opening_of_opens kind c (opens_of_heads kind c tail alone unknown),
      opening_of_opens other c begins]

theorem number_no_letter (alone : Heads (.number, c :: tail) []) : isLetter c = false := by
  obtain ⟨_, _, _, noSymbol⟩ := (heads_known_iff .number _ [] (by decide)).mp alone
  exact (symbol?_eq_none_iff c tail).mp (noSymbol rfl)

theorem isBlank_iff (alone : Heads (kind, c :: tail) []) : isBlank c = true ↔ kind = .blank := by
  constructor
  · intro begins
    have same := family_of_heads kind c tail alone .blank (by decide) begins
    revert same
    cases kind <;> decide
  · rintro rfl
    exact opens_of_heads .blank c tail alone (by decide)

theorem isOperator_iff (alone : Heads (kind, c :: tail) []) :
    isOperator c = true ↔ kind = .operator ∨ kind = .comment := by
  constructor
  · intro begins
    have same := family_of_heads kind c tail alone .operator (by decide) begins
    revert same
    cases kind <;> decide
  · rintro (rfl | rfl)
    · exact opens_of_heads .operator c tail alone (by decide)
    · have slash : c = '/' := by
        simpa [opens] using opens_of_heads .comment c tail alone (by decide)
      subst c
      rfl

theorem isLetter_iff (alone : Heads (kind, c :: tail) []) :
    isLetter c = true ↔ kind = .symbol := by
  constructor
  · intro begins
    have same := family_of_heads kind c tail alone .symbol (by decide) begins
    have notNumber : kind ≠ .number := by
      rintro rfl
      rw [number_no_letter c tail alone] at begins
      cases begins
    revert same notNumber
    cases kind <;> decide
  · rintro rfl
    exact opens_of_heads .symbol c tail alone (by decide)

theorem isDigit_iff (alone : Heads (kind, c :: tail) []) :
    c.isDigit = true ↔ kind = .number := by
  constructor
  · intro isDigit
    have begins : opens .number c = true := by
      rw [opens, isHexDigit_eq, isDigit, Bool.true_or]
    have same := family_of_heads kind c tail alone .number (by decide) begins
    have notSymbol : kind ≠ .symbol := by
      rintro rfl
      rw [letter_not_digit c (opens_of_heads .symbol c tail alone (by decide))] at isDigit
      cases isDigit
    revert same notSymbol
    cases kind <;> decide
  · rintro rfl
    have begins : isHexDigit c = true := opens_of_heads .number c tail alone (by decide)
    rw [isHexDigit_eq, Bool.or_eq_true] at begins
    rcases begins with isDigit | isHex
    · exact isDigit
    · have letter := hexLetter_letter c isHex
      rw [number_no_letter c tail alone] at letter
      cases letter

theorem unknown_of_heads (alone : Heads (kind, c :: tail) []) (noKind : opening c = .unknown) :
    kind = .unknown ∧ tail = [] := by
  have unknown : kind = .unknown := by
    apply Decidable.byContradiction
    intro known
    rw [opening_of_opens kind c (opens_of_heads kind c tail alone known)] at noKind
    revert noKind known
    cases kind <;> decide
  subst kind
  obtain ⟨d, split, _⟩ := (heads_unknown_iff _ []).mp alone
  cases split
  exact ⟨rfl, rfl⟩

end Alone

/-! The text behind a piece matters up to its first blank only, for all kinds of pieces but the blanks
themselves and comments, which go on behind one -/

def upToBlank (text : Text) : Text := text.takeWhile fun c => !isBlank c

theorem upToBlank_cons (c : Char) (rest : Text) :
    upToBlank (c :: rest) = if isBlank c then [] else c :: upToBlank rest := by
  cases blank : isBlank c <;> simp [upToBlank, blank]

theorem upToBlank_append (text rest other : Text) (alike : upToBlank rest = upToBlank other) :
    upToBlank (text ++ rest) = upToBlank (text ++ other) := by
  induction text with
  | nil => exact alike
  | cons c text ih => rw [List.cons_append, List.cons_append, upToBlank_cons, upToBlank_cons, ih]

theorem upToBlank_prefix (text : Text) : upToBlank text <+: text := List.takeWhile_prefix _

theorem blank_outside (isMember : Char → Bool)
    (apart : blanks.all (fun c => !isMember c) = true) (c : Char) (blank : isBlank c = true) :
    isMember c = false := by
  simpa using holds_of_contains blanks _ apart c blank

theorem not_blank_of_member (isMember : Char → Bool)
    (apart : blanks.all (fun c => !isMember c) = true) (c : Char) (belongs : isMember c = true) :
    isBlank c = false := by
  apply Bool.eq_false_iff.mpr
  intro blank
  rw [blank_outside isMember apart c blank] at belongs
  cases belongs

theorem stops_upToBlank (isMember : Char → Bool)
    (apart : blanks.all (fun c => !isMember c) = true) (rest : Text) :
    Stops isMember (upToBlank rest) ↔ Stops isMember rest := by
  cases rest with
  | nil => rfl
  | cons c rest =>
      rw [upToBlank_cons]
      split
      · rename_i blank
        rw [stops_cons]
        exact iff_of_true (stops_nil isMember) (blank_outside isMember apart c blank)
      · rw [stops_cons, stops_cons]

theorem marks_upToBlank (rest : Text) : Marks (upToBlank rest) ↔ Marks rest := by
  constructor
  · rintro ⟨mark, digit, tail, split, isMark, isDigit⟩
    obtain ⟨behind, whole⟩ := upToBlank_prefix rest
    refine ⟨mark, digit, tail ++ behind, ?_, isMark, isDigit⟩
    rw [← whole, split]
    rfl
  · rintro ⟨mark, digit, tail, rfl, isMark, isDigit⟩
    have markGoesOn := not_blank_of_member isRadixMark (by decide) mark isMark
    have digitGoesOn := not_blank_of_member isHexDigit (by decide) digit isDigit
    refine ⟨mark, digit, upToBlank tail, ?_, isMark, isDigit⟩
    simp [upToBlank_cons, markGoesOn, digitGoesOn]

theorem points_upToBlank (rest : Text) : Points (upToBlank rest) ↔ Points rest := by
  constructor
  · rintro ⟨digit, tail, split, isDigit⟩
    obtain ⟨behind, whole⟩ := upToBlank_prefix rest
    refine ⟨digit, tail ++ behind, ?_, isDigit⟩
    rw [← whole, split]
    rfl
  · rintro ⟨digit, tail, rfl, isDigit⟩
    have pointGoesOn : isBlank '.' = false := by decide
    have digitGoesOn := not_blank_of_member isHexDigit (by decide) digit isDigit
    refine ⟨digit, upToBlank tail, ?_, isDigit⟩
    simp [upToBlank_cons, pointGoesOn, digitGoesOn]

theorem numberEnds_upToBlank (piece rest : Text) :
    NumberEnds piece (upToBlank rest) ↔ NumberEnds piece rest := by
  rw [numberEnds_iff, numberEnds_iff, stops_upToBlank isHexDigit (by decide), marks_upToBlank,
    points_upToBlank]

theorem ends_upToBlank (kind : Kind) (piece rest : Text) (notBlank : kind ≠ .blank)
    (notComment : kind ≠ .comment) : Ends kind piece (upToBlank rest) ↔ Ends kind piece rest := by
  cases kind with
  | blank | comment => contradiction
  | operator => exact stops_upToBlank isOperator (by decide) rest
  | symbol => exact stops_upToBlank isSymbolPart (by decide) rest
  | number => exact numberEnds_upToBlank piece rest
  | punctuation | string | unknown | endOfInput => exact Iff.rfl

/-- A piece is taken in front of any two texts that begin alike up to their first blank, if it is
taken in front of one of them and does not leave a string open there. -/
theorem heads_upToBlank (piece : Piece) (rest other : Text) (notBlank : piece.1 ≠ .blank)
    (notComment : piece.1 ≠ .comment) (alike : upToBlank rest = upToBlank other)
    (unclosed : ∀ quote, piece = (.unknown, [quote]) → isQuote quote = true →
      Unclosed quote rest → Unclosed quote other)
    (heads : Heads piece rest) : Heads piece other := by
  obtain ⟨alone, border⟩ := (heads_iff piece rest).mp heads
  refine (heads_iff piece other).mpr ⟨alone, ?_, ?_⟩
  · have ends := border.ends
    rwa [← ends_upToBlank _ _ _ notBlank notComment, alike,
      ends_upToBlank _ _ _ notBlank notComment] at ends
  · intro quote same opened
    exact unclosed quote same opened (border.unclosed quote same opened)

end Recognition

end LexicalScan
