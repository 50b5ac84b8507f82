import LexicalScan.Proofs.Patterns
import LexicalScan.Proofs.Pieces
import LexicalScan.Scanner

/-!
Which piece a step takes, said by the languages of the kinds alone: of the first kind, in the order
of the table, that has a piece at the front, the longest such piece. The patterns of the table prefer
in their own way, but their first match is the same piece.
-/

namespace LexicalScan.Recognition

open Grammar

structure Longest (language : Text → Prop) (text piece : Text) : Prop where
  atFront : piece <+: text
  inside : language piece
  greatest : ∀ other, other <+: text → language other → other.length ≤ piece.length

def Begins (language : Text → Prop) (text : Text) : Prop :=
  ∃ piece, piece ≠ [] ∧ piece <+: text ∧ language piece

/-- The piece at the front of a text by the languages of the kinds, tried in an order. -/
inductive FirstLongest (order : List Kind) (text : Text) : Kind → Text → Prop where
  | known {before after : List Kind} {kind : Kind} {piece : Text} :
      order = before ++ kind :: after →
      (∀ earlier ∈ before, ¬ Begins (Language earlier) text) →
      Begins (Language kind) text → Longest (Language kind) text piece →
      FirstLongest order text kind piece
  | unknown {c : Char} {rest : Text} :
      (∀ kind ∈ order, ¬ Begins (Language kind) text) → text = c :: rest →
      FirstLongest order text .unknown [c]

theorem language_ne_nil (kind : Kind) (piece : Text) (valid : Language kind piece) :
    piece ≠ [] := by
  rintro rfl
  obtain ⟨length, found, _⟩ := length?_ge kind [] [] valid
  have bound := length?_le kind ([] ++ []) length found
  have positive := length?_pos found
  exact Nat.lt_irrefl 0 (Nat.lt_of_lt_of_le positive bound)

theorem length?_eq_none_iff (kind : Kind) (text : Text) :
    length? kind text = none ↔ ¬ Begins (Language kind) text := by
  constructor
  · rintro unmatched ⟨piece, _, ⟨rest, rfl⟩, valid⟩
    obtain ⟨length, found, _⟩ := length?_ge kind piece rest valid
    rw [unmatched] at found
    cases found
  · intro absent
    cases found : length? kind text with
    | none => rfl
    | some length =>
        exfalso
        obtain ⟨piece, rest, rfl, rfl⟩ := split_of_length? kind text length found
        have valid := ((length?_append_iff kind piece rest).mp found).1
        exact absent
          ⟨piece, language_ne_nil kind piece valid, List.prefix_append piece rest, valid⟩

/-- The rule of a kind takes the longest piece of its language. -/
theorem length?_eq_some_iff (kind : Kind) (text piece : Text) (atFront : piece <+: text) :
    length? kind text = some piece.length ↔ Longest (Language kind) text piece := by
  obtain ⟨rest, rfl⟩ := atFront
  constructor
  · intro found
    refine ⟨List.prefix_append piece rest, ((length?_append_iff kind piece rest).mp found).1, ?_⟩
    rintro other ⟨behind, split⟩ valid
    obtain ⟨length, foundOther, bound⟩ := length?_ge kind other behind valid
    rw [split, found] at foundOther
    cases foundOther
    exact bound
  · rintro ⟨_, valid, greatest⟩
    -- What the rule takes is itself in the language, so it is no longer than the piece.
    obtain ⟨length, found, bound⟩ := length?_ge kind piece rest valid
    obtain ⟨taken, behind, split, rfl⟩ := split_of_length? kind _ length found
    rw [split] at found ⊢
    have takenValid := ((length?_append_iff kind taken behind).mp found).1
    have noLonger := greatest taken (split ▸ List.prefix_append taken behind) takenValid
    rw [found, Nat.le_antisymm bound noLonger]

theorem classifyBy_cases (order : List Kind) (text : Text) :
    (classifyBy order text = (.unknown, 1) ∧ ∀ kind ∈ order, length? kind text = none) ∨
      ∃ kind length, kind ∈ order ∧ length? kind text = some length ∧
        classifyBy order text = (kind, length) := by
  rw [classifyBy]
  cases first : order.findSome? fun kind => (length? kind text).map (kind, ·) with
  | none =>
      refine Or.inl ⟨rfl, ?_⟩
      intro kind member
      simpa using List.findSome?_eq_none_iff.mp first kind member
  | some found =>
      obtain ⟨kind, member, mapped⟩ := List.exists_of_findSome?_eq_some first
      obtain ⟨length, measured, rfl⟩ := Option.map_eq_some_iff.mp mapped
      exact Or.inr ⟨kind, length, member, measured, rfl⟩

theorem classifyBy_known_iff (order : List Kind) (text : Text) (kind : Kind) (length : Nat)
    (known : kind ≠ .unknown) :
    classifyBy order text = (kind, length) ↔
      ∃ before after, order = before ++ kind :: after ∧ length? kind text = some length ∧
        ∀ earlier ∈ before, length? earlier text = none := by
  rw [classifyBy]
  constructor
  · intro taken
    cases first : order.findSome? fun kind => (length? kind text).map (kind, ·) with
    | none =>
        rw [first] at taken
        cases taken
        exact absurd rfl known
    | some found =>
        rw [first, Option.getD_some] at taken
        subst taken
        obtain ⟨before, same, after, split, mapped, earlier⟩ := List.findSome?_eq_some_iff.mp first
        obtain ⟨_, measured, pair⟩ := Option.map_eq_some_iff.mp mapped
        cases pair
        refine ⟨before, after, split, measured, ?_⟩
        intro other member
        simpa using earlier other member
  · rintro ⟨before, after, rfl, measured, earlier⟩
    have first : (before ++ kind :: after).findSome?
        (fun kind => (length? kind text).map (kind, ·)) = some (kind, length) := by
      refine List.findSome?_eq_some_iff.mpr ⟨before, kind, after, rfl, ?_, ?_⟩
      · rw [measured]
        rfl
      · intro other member
        rw [earlier other member]
        rfl
    rw [first, Option.getD_some]

theorem classifyBy_unknown_iff (order : List Kind) (text : Text) (length : Nat) :
    classifyBy order text = (.unknown, length) ↔
      length = 1 ∧ ∀ kind ∈ order, length? kind text = none := by
  rcases classifyBy_cases order text with
    ⟨fallback, unmatched⟩ | ⟨kind, size, member, measured, taken⟩
  · rw [fallback, Prod.mk.injEq, and_iff_right rfl, and_iff_left unmatched, eq_comm]
  · rw [taken, Prod.mk.injEq]
    constructor
    · rintro ⟨rfl, _⟩
      cases measured
    · rintro ⟨_, unmatched⟩
      rw [unmatched kind member] at measured
      cases measured

theorem firstLongest_of_classifyBy (order : List Kind) (kind : Kind) (piece rest : Text)
    (taken : classifyBy order (piece ++ rest) = (kind, piece.length)) :
    FirstLongest order (piece ++ rest) kind piece := by
  by_cases known : kind = .unknown
  · subst known
    obtain ⟨single, unmatched⟩ := (classifyBy_unknown_iff order _ _).mp taken
    obtain ⟨c, rfl⟩ := List.length_eq_one_iff.mp single
    refine .unknown ?_ rfl
    intro kind member
    exact (length?_eq_none_iff kind _).mp (unmatched kind member)
  · obtain ⟨before, after, split, measured, earlier⟩ :=
      (classifyBy_known_iff order _ kind _ known).mp taken
    have atFront := List.prefix_append piece rest
    have longest := (length?_eq_some_iff kind _ piece atFront).mp measured
    have nonempty := language_ne_nil kind piece longest.inside
    refine .known split ?_ ⟨piece, nonempty, atFront, longest.inside⟩ longest
    intro other member
    exact (length?_eq_none_iff other _).mp (earlier other member)

theorem classifyBy_of_firstLongest (order : List Kind) (text : Text) (kind : Kind) (piece : Text)
    (policy : FirstLongest order text kind piece) :
    classifyBy order text = (kind, piece.length) := by
  cases policy with
  | known split earlier _ longest =>
      have measured := (length?_eq_some_iff kind text piece longest.atFront).mpr longest
      have known : kind ≠ .unknown := by
        rintro rfl
        cases measured
      refine (classifyBy_known_iff order text kind _ known).mpr ⟨_, _, split, measured, ?_⟩
      intro other member
      exact (length?_eq_none_iff other text).mpr (earlier other member)
  | unknown absent split =>
      refine (classifyBy_unknown_iff order text 1).mpr ⟨rfl, ?_⟩
      intro other member
      exact (length?_eq_none_iff other text).mpr (absent other member)

/-- Trying the kinds in an order takes the longest piece of the first kind that has one. -/
theorem classifyBy_eq_iff (order : List Kind) (text : Text) (kind : Kind) (piece : Text)
    (atFront : piece <+: text) :
    classifyBy order text = (kind, piece.length) ↔ FirstLongest order text kind piece := by
  obtain ⟨rest, rfl⟩ := atFront
  constructor
  · exact firstLongest_of_classifyBy order kind piece rest
  · exact classifyBy_of_firstLongest order _ kind piece

theorem classifyBy_le (order : List Kind) (text : Text) (nonempty : text ≠ []) :
    (classifyBy order text).2 ≤ text.length := by
  rcases classifyBy_cases order text with ⟨fallback, _⟩ | ⟨kind, length, _, found, taken⟩
  · rw [fallback]
    exact List.length_pos_iff.mpr nonempty
  · rw [taken]
    exact length?_le kind text length found

end LexicalScan.Recognition

namespace LexicalScan.Scanner

open Recognition

theorem stepBy?_of_remains (order : List Kind) (scanner : Scanner)
    (remains : scanner.rest ≠ []) :
    scanner.stepBy? order =
      let piece := classifyBy order scanner.rest
      let value := scanner.rest.take piece.2
      some
        (⟨piece.1, value, some scanner.cursor⟩,
          { scanner with
            rest := scanner.rest.drop piece.2
            cursor := placeBehind scanner.cursor piece.1 value }) := by
  have notAtEnd : scanner.atEnd = false := by
    simpa [atEnd] using remains
  rw [stepBy?, notAtEnd]
  rfl

/-- Where text is left, a step takes what leftmost-first matching of the table takes, and that is the
longest piece of the first kind that has one. -/
theorem step?_first_longest (scanner : Scanner) (remains : scanner.rest ≠ []) :
    ∃ token next, scanner.step? = some (token, next) ∧
      Pattern.firstMatch Pattern.table scanner.rest = (token.kind, token.value.length) ∧
      ∀ kind value,
        FirstLongest [.comment, .punctuation, .blank, .operator, .string, .symbol, .number]
            scanner.rest kind value ↔
          kind = token.kind ∧ value = token.value := by
  have measured := List.length_take_of_le (classifyBy_le precedence scanner.rest remains)
  refine ⟨_, _, stepBy?_of_remains precedence scanner remains, ?_, ?_⟩
  · rw [Pattern.firstMatch_table]
    exact Prod.ext rfl measured.symm
  · intro kind value
    constructor
    · intro policy
      have atFront : value <+: scanner.rest := by
        cases policy with
        | known _ _ _ longest => exact longest.atFront
        | unknown _ split => exact ⟨_, split.symm⟩
      have taken := (classifyBy_eq_iff precedence scanner.rest kind value atFront).mpr policy
      refine ⟨(congrArg Prod.fst taken).symm, ?_⟩
      rw [taken]
      exact List.prefix_iff_eq_take.mp atFront
    · rintro ⟨rfl, rfl⟩
      apply (classifyBy_eq_iff precedence _ _ _ (List.take_prefix _ _)).mp
      exact Prod.ext rfl measured.symm

theorem step?_first_longest_given_back :
    (ofText "0b.5.".toList).rest ≠ [] ∧
      ∃ token next, (ofText "0b.5.".toList).step? = some (token, next) ∧
        Pattern.firstMatch Pattern.table "0b.5.".toList = (token.kind, token.value.length) ∧
        ∀ kind value,
          FirstLongest [.comment, .punctuation, .blank, .operator, .string, .symbol, .number]
              "0b.5.".toList kind value ↔
            kind = token.kind ∧ value = token.value :=
  ⟨by decide, step?_first_longest (ofText "0b.5.".toList) (by decide)⟩

end LexicalScan.Scanner
