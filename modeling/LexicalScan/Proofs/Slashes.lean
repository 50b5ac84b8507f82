import LexicalScan.Proofs.Single

/-!
Two slashes in a row. They begin a comment wherever a token begins with them, since a comment is tried
before an operator. But the kinds are tried only where a token begins, and an operator goes on as long as
it can, so two slashes behind an operator character belong to the operator.
-/

namespace LexicalScan

namespace Recognition

open Alphabet

theorem kind_of_operator_mem (kind : Kind) (value rest : Text) (c : Char)
    (heads : Heads (kind, value) rest) (member : c ∈ value) (operator : isOperator c = true) :
    kind = .operator ∨ kind = .comment ∨ kind = .string := by
  by_cases unknown : kind = .unknown
  · subst kind
    obtain ⟨d, rfl, closed, _⟩ := (heads_unknown_iff value rest).mp heads
    have plain : isOperator d = false := closed .operator (by decide)
    rw [List.mem_singleton.mp member, plain] at operator
    cases operator
  · have valid := ((heads_known_iff kind value rest unknown).mp heads).1
    have held := mayHold_of_language kind value valid c member
    have apart : ∀ other, operators.all (fun d => !mayHold other d) = true →
        ¬ mayHold other c = true := by
      intro other all
      simpa using holds_of_contains operators _ all c operator
    cases kind with
    | operator => exact Or.inl rfl
    | comment => exact Or.inr (Or.inl rfl)
    | string => exact Or.inr (Or.inr rfl)
    | unknown | endOfInput => exact valid.elim
    | punctuation | blank | symbol | number =>
        refine absurd held (apart _ ?_)
        decide

/-- In front of a slash no piece ends in an operator character: an operator or a comment would go on. -/
theorem last_not_operator (kind : Kind) (value rest : Text)
    (heads : Heads (kind, value) ('/' :: rest)) :
    ∀ c ∈ value.getLast?, isOperator c = false := by
  intro c last
  apply Bool.eq_false_iff.mpr
  intro operator
  have member := List.mem_of_getLast? last
  rcases kind_of_operator_mem kind value _ c heads member operator with rfl | rfl | rfl
  · have stops : Stops isOperator ('/' :: rest) :=
      ((heads_known_iff .operator value _ (by decide)).mp heads).2.1
    rw [stops_cons] at stops
    contradiction
  · have stops : Stops isCommentPart ('/' :: rest) :=
      ((heads_known_iff .comment value _ (by decide)).mp heads).2.1
    rw [stops_cons] at stops
    contradiction
  · obtain ⟨quote, body, isQuote, _, rfl⟩ :=
      ((heads_known_iff .string value _ (by decide)).mp heads).1
    rw [← List.cons_append, List.getLast?_concat] at last
    cases last
    rw [Alphabet.isQuote, Bool.or_eq_true, beq_iff_eq, beq_iff_eq] at isQuote
    rcases isQuote with rfl | rfl <;> contradiction

/-- An operator does not begin with two slashes, and it takes a slash that stands behind it. -/
theorem operator_slashes (value rest : Text) (heads : Heads (.operator, value) rest) :
    ¬ ['/', '/'] <+: value ∧
      ∀ inside behind after, value = inside ++ '/' :: behind → behind ++ rest = '/' :: after →
        inside ++ ['/', '/'] <+: value := by
  obtain ⟨_, stops, noComment, _⟩ := (heads_known_iff .operator value rest (by decide)).mp heads
  refine ⟨(comment?_eq_none_iff value).mp (noComment rfl), ?_⟩
  rintro inside behind after rfl split
  cases behind with
  | nil =>
      rw [List.nil_append] at split
      subst split
      have outside : isOperator '/' = false := (stops_cons isOperator '/' after).mp stops
      contradiction
  | cons c behind =>
      cases split
      exact ⟨behind, by simp⟩

end Recognition

open Recognition Alphabet

/-- Whether a token holds the character that stands behind some text, with a part of the token in front
of it. -/
structure Holds (tokens : List Token) (before : Text) (c : Char) (token : Token) (inside : Text) :
    Prop where
  place : ∃ earlier later, tokens = earlier ++ token :: later ∧
    before = earlier.flatMap Token.value ++ inside
  goesOn : ∃ behind, token.value = inside ++ c :: behind

inductive Slashes (before : Text) (token : Token) (inside : Text) : Prop where
  | inString : token.kind = .string → Slashes before token inside
  | inComment : token.kind = .comment → inside ≠ [] → Slashes before token inside
  | openComment :
      token.kind = .comment → inside = [] → (∀ c ∈ before.getLast?, isOperator c = false) →
      Slashes before token inside
  | inOperator :
      token.kind = .operator → inside ++ ['/', '/'] <+: token.value → inside ≠ [] →
      (∃ c ∈ before.getLast?, isOperator c = true) → Slashes before token inside

theorem holds_cons (first : Token) (tokens : List Token) (before : Text) (c : Char) (token : Token)
    (inside : Text) (holds : Holds tokens before c token inside) :
    Holds (first :: tokens) (first.value ++ before) c token inside := by
  obtain ⟨⟨earlier, later, rfl, rfl⟩, goesOn⟩ := holds
  refine ⟨⟨first :: earlier, later, rfl, ?_⟩, goesOn⟩
  rw [List.flatMap_cons, List.append_assoc]

theorem exists_holds (tokens : List Token) (before after : Text) (c : Char)
    (joined : tokens.flatMap Token.value = before ++ c :: after) :
    ∃ token inside, Holds tokens before c token inside := by
  induction tokens generalizing before with
  | nil => exact absurd joined.symm (List.append_ne_nil_of_right_ne_nil before (List.cons_ne_nil _ _))
  | cons first tokens ih =>
      rw [List.flatMap_cons] at joined
      rcases List.append_eq_append_iff.mp joined with
        ⟨further, rfl, rest⟩ | ⟨_ | ⟨d, behind⟩, value, rest⟩
      · obtain ⟨token, inside, holds⟩ := ih further rest
        exact ⟨token, inside, holds_cons first tokens further c token inside holds⟩
      · obtain ⟨token, inside, holds⟩ := ih [] rest.symm
        rw [List.append_nil] at value
        have further := holds_cons first tokens [] c token inside holds
        rw [List.append_nil, value] at further
        exact ⟨token, inside, further⟩
      · cases rest
        exact ⟨first, before, ⟨[], tokens, rfl, rfl⟩, behind, value⟩

section Source

variable {source : Text} {pieces : List Token}
  (all : tokens source = pieces ++ [Token.endOfInput]) (covers : Covers pieces source)

include all covers

theorem piece_heads (earlier later : List Token) (token : Token)
    (split : pieces = earlier ++ token :: later) :
    ∃ rest, source = earlier.flatMap Token.value ++ token.value ++ rest ∧
      Heads token.piece rest := by
  refine tokens_heads source earlier (later ++ [Token.endOfInput]) token ?_ (covers.notEnd token ?_)
  · rw [all, split, List.append_assoc, List.cons_append]
  · rw [split]
    exact List.mem_append_right _ List.mem_cons_self

/-- No operator character stands in front of a token that begins with a slash. -/
theorem no_operator_in_front (earlier later : List Token) (token : Token) (rest : Text)
    (split : pieces = earlier ++ token :: later)
    (slash : source = earlier.flatMap Token.value ++ '/' :: rest) :
    ∀ c ∈ (earlier.flatMap Token.value).getLast?, isOperator c = false := by
  rcases List.eq_nil_or_concat earlier with rfl | ⟨front, last, rfl⟩
  · intro c member
    cases member
  · obtain ⟨behind, place, heads⟩ := piece_heads all covers front (token :: later) last (by simp [split])
    have values : (front.concat last).flatMap Token.value = front.flatMap Token.value ++ last.value := by
      simp
    rw [values] at slash ⊢
    cases List.append_cancel_left (place.symm.trans slash)
    have nonempty : last.value ≠ [] := heads.nonempty
    intro c member
    apply last_not_operator last.kind last.value rest heads c
    rwa [List.getLast?_append, List.getLast?_eq_some_getLast nonempty, Option.some_or,
      ← List.getLast?_eq_some_getLast] at member

theorem slashes_of_holds (before after inside : Text) (token : Token)
    (split : source = before ++ '/' :: '/' :: after)
    (holds : Holds pieces before '/' token inside) : Slashes before token inside := by
  obtain ⟨⟨earlier, later, cut, rfl⟩, behind, value⟩ := holds
  obtain ⟨rest, place, heads⟩ := piece_heads all covers earlier later token cut
  have goesOn : behind ++ rest = '/' :: after := by
    rw [value] at place
    simp only [List.append_assoc, List.cons_append] at place split
    exact (List.cons.inj (List.append_cancel_left (List.append_cancel_left (place.symm.trans split)))).2
  have member : '/' ∈ token.value := by simp [value]
  rcases kind_of_operator_mem token.kind token.value rest '/' heads member rfl with
    operator | comment | string
  · rw [Token.piece, operator] at heads
    obtain ⟨noSlashes, takes⟩ := operator_slashes token.value rest heads
    have both := takes inside behind after value goesOn
    have nonempty : inside ≠ [] := by
      rintro rfl
      exact noSlashes both
    refine .inOperator operator both nonempty ⟨inside.getLast nonempty, ?_, ?_⟩
    · rw [List.getLast?_append, List.getLast?_eq_some_getLast nonempty, Option.some_or]
      rfl
    · have valid := ((heads_known_iff .operator _ rest (by decide)).mp heads).1
      apply valid.2
      rw [value]
      exact List.mem_append_left _ (List.getLast_mem nonempty)
  · by_cases opens : inside = []
    · subst opens
      rw [List.append_nil] at split ⊢
      exact .openComment comment rfl
        (no_operator_in_front all covers earlier later token ('/' :: after) cut split)
    · exact .inComment comment opens
  · exact .inString string

end Source

/-- No operator begins with two slashes. Two slashes that stand in no string, and in no comment that
begins before them, open a comment, unless an operator character stands right in front of them. Then
they are part of the operator of that character. -/
theorem tokens_slashes (source : Text) :
    (∀ token ∈ tokens source, token.kind = .operator → ¬ ['/', '/'] <+: token.value) ∧
      ∀ before after, source = before ++ '/' :: '/' :: after →
        ∃ token inside, Holds (tokens source) before '/' token inside ∧
          Slashes before token inside := by
  obtain ⟨pieces, all, covers⟩ := tokens_cover source
  constructor
  · intro token member operator
    rw [all] at member
    rcases List.mem_append.mp member with inPieces | last
    · obtain ⟨earlier, later, split⟩ := List.append_of_mem inPieces
      obtain ⟨rest, _, heads⟩ := piece_heads all covers earlier later token split
      rw [Token.piece, operator] at heads
      exact (operator_slashes token.value rest heads).1
    · cases List.mem_singleton.mp last
      cases operator
  · intro before after split
    obtain ⟨token, inside, holds⟩ :=
      exists_holds pieces before ('/' :: after) '/' (covers.joined.trans split)
    refine ⟨token, inside, ?_, slashes_of_holds all covers before after inside token split holds⟩
    obtain ⟨⟨earlier, later, cut, place⟩, goesOn⟩ := holds
    refine ⟨⟨earlier, later ++ [Token.endOfInput], ?_, place⟩, goesOn⟩
    rw [all, cut, List.append_assoc, List.cons_append]

/-- Two slashes behind an operator character are part of an operator. -/
theorem slashes_behind_operator :
    ∃ token ∈ tokens "+//".toList, token.kind = .operator ∧ ['/', '/'] <:+: token.value :=
  ⟨⟨.operator, "+//".toList, some ⟨1, 1⟩⟩, by decide +kernel, rfl, by decide⟩

end LexicalScan
