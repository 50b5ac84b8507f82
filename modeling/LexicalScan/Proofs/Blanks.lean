import LexicalScan.Proofs.Refusal

/-!
Blanks in place of other blanks. Which blank stands between two pieces makes no difference to the
pieces around it: it keeps them apart, and backslashes in front of it do not escape what is behind it.
Only a comment tells blanks apart, since it goes on behind a blank that does not begin with the end of
a line.
-/

namespace LexicalScan

open Recognition Alphabet

/-- Whether pieces differ in their blanks only. -/
inductive Reblanked : List Piece → List Piece → Prop where
  | nil : Reblanked [] []
  | kept (piece : Piece) {pieces changed : List Piece} :
      piece.1 ≠ .blank → Reblanked pieces changed → Reblanked (piece :: pieces) (piece :: changed)
  | blank (text other : Text) {pieces changed : List Piece} :
      Grammar.Run isBlank other → Reblanked pieces changed →
        Reblanked ((.blank, text) :: pieces) ((.blank, other) :: changed)

def BreaksComments (pieces : List Piece) : Prop :=
  ∀ comment blank later, (.comment, comment) :: (.blank, blank) :: later <:+ pieces →
    ∃ c ∈ blank.head?, c = '\r' ∨ c = '\n'

theorem breaksComments_tail (first : Piece) (pieces : List Piece)
    (breaks : BreaksComments (first :: pieces)) : BreaksComments pieces := by
  intro comment blank later suffix
  exact breaks comment blank later (suffix.trans (List.suffix_cons first pieces))

namespace Recognition

theorem run_of_heads (text rest : Text) (heads : Heads (.blank, text) rest) :
    Grammar.Run isBlank text :=
  ((heads_known_iff .blank text rest (by decide)).mp heads).1

theorem upToBlank_run (text rest : Text) (run : Grammar.Run isBlank text) :
    upToBlank (text ++ rest) = [] := by
  obtain ⟨c, tail, rfl⟩ := List.exists_cons_of_ne_nil run.1
  rw [List.cons_append, upToBlank_cons, if_pos (run.2 c List.mem_cons_self)]

theorem unclosed_cons_iff (quote : Char) (front rest : Text) (c : Char) (notQuote : c ≠ quote)
    (notBackslash : c ≠ '\\') :
    Unclosed quote (front ++ c :: rest) ↔ Unclosed quote front ∧ Unclosed quote rest := by
  constructor
  · intro unclosed
    constructor
    · rintro before after rfl
      apply unclosed before (after ++ c :: rest)
      simp
    · rintro before after rfl paired
      apply unclosed (front ++ c :: before) after (by simp)
      rwa [paired_behind front before c notBackslash]
  · rintro ⟨inFront, behind⟩ before after split
    rcases List.append_eq_append_iff.mp split with ⟨between, rfl, cut⟩ | ⟨between, rfl, cut⟩
    · cases between with
      | nil =>
          cases cut
          exact absurd rfl notQuote
      | cons first between =>
          cases cut
          rw [paired_behind front between c notBackslash]
          exact behind between after rfl
    · cases between with
      | nil =>
          cases cut
          exact absurd rfl notQuote
      | cons first between =>
          cases cut
          exact inFront before between rfl

theorem unclosed_run_iff (quote : Char) (isQuote : isQuote quote = true) (front text rest : Text)
    (run : Grammar.Run isBlank text) :
    Unclosed quote (front ++ (text ++ rest)) ↔ Unclosed quote front ∧ Unclosed quote rest := by
  have plain : ∀ c ∈ text, c ≠ quote ∧ c ≠ '\\' := by
    intro c member
    have blank := run.2 c member
    constructor
    · rintro rfl
      rw [blank_outside Alphabet.isQuote (by decide) c blank] at isQuote
      cases isQuote
    · rintro rfl
      contradiction
  have behind : ∀ tail : Text, (∀ c ∈ tail, c ≠ quote ∧ c ≠ '\\') →
      (Unclosed quote (tail ++ rest) ↔ Unclosed quote rest) := by
    intro tail plain
    induction tail with
    | nil => rfl
    | cons c tail ih =>
        obtain ⟨first, others⟩ := List.forall_mem_cons.mp plain
        have parted := unclosed_cons_iff quote [] (tail ++ rest) c first.1 first.2
        rw [List.nil_append] at parted
        rw [List.cons_append, parted, ih others]
        exact and_iff_right (unclosed_nil quote)
  obtain ⟨c, tail, rfl⟩ := List.exists_cons_of_ne_nil run.1
  obtain ⟨first, others⟩ := List.forall_mem_cons.mp plain
  rw [List.cons_append, unclosed_cons_iff quote front (tail ++ rest) c first.1 first.2,
    behind tail others]

end Recognition

/-! Pieces with their blanks replaced -/
section Replaced

variable {pieces changed : List Piece} (replaced : Reblanked pieces changed)

include replaced

theorem upToBlank_replaced (divides : Divides pieces) :
    upToBlank (printed pieces) = upToBlank (printed changed) := by
  induction replaced with
  | nil => rfl
  | kept piece _ _ ih =>
      rw [printed_cons, printed_cons]
      exact upToBlank_append piece.2 _ _ (ih ((divides_cons _ _).mp divides).2)
  | blank text other run _ _ =>
      have old := run_of_heads text _ ((divides_cons _ _).mp divides).1
      rw [printed_cons, printed_cons, upToBlank_run text _ old, upToBlank_run other _ run]

theorem unclosed_replaced (quote : Char) (opened : isQuote quote = true)
    (divides : Divides pieces) (front : Text)
    (unclosed : Unclosed quote (front ++ printed pieces)) :
    Unclosed quote (front ++ printed changed) := by
  -- The text in front is generalised, since a piece that stays goes over to it.
  induction replaced generalizing front with
  | nil => exact unclosed
  | kept piece _ _ ih =>
      rw [printed_cons, ← List.append_assoc] at unclosed ⊢
      exact ih ((divides_cons _ _).mp divides).2 _ unclosed
  | blank text other run _ ih =>
      obtain ⟨heads, dividesBehind⟩ := (divides_cons _ _).mp divides
      have old := run_of_heads text _ heads
      rw [printed_cons, unclosed_run_iff quote opened front text _ old] at unclosed
      rw [printed_cons, unclosed_run_iff quote opened front other _ run]
      exact ⟨unclosed.1, ih dividesBehind [] unclosed.2⟩

/-- What the text behind a piece begins with is changed only where a blank stands there. -/
theorem stops_replaced (isMember : Char → Bool) (divides : Divides pieces)
    (stops : Stops isMember (printed pieces))
    (atBlank : ∀ text other later, Grammar.Run isBlank text → Stops isMember text →
      changed = (.blank, other) :: later → Stops isMember other) :
    Stops isMember (printed changed) := by
  cases replaced with
  | nil => exact stops
  | kept piece _ _ =>
      have nonempty := ((divides_cons _ _).mp divides).1.nonempty
      rw [printed_cons, stops_append _ _ _ nonempty] at stops ⊢
      exact stops
  | blank text other run _ =>
      have old := run_of_heads text _ ((divides_cons _ _).mp divides).1
      rw [printed_cons, stops_append _ _ _ old.1] at stops
      rw [printed_cons, stops_append _ _ _ run.1]
      exact atBlank text other _ old stops rfl

theorem heads_kept (piece : Piece) (notBlank : piece.1 ≠ .blank) (divides : Divides pieces)
    (breaks : BreaksComments (piece :: changed)) (heads : Heads piece (printed pieces)) :
    Heads piece (printed changed) := by
  by_cases comment : piece.1 = .comment
  · obtain ⟨kind, text⟩ := piece
    subst comment
    rw [heads_known_iff .comment _ _ (by decide)] at heads ⊢
    obtain ⟨valid, stops, order⟩ := heads
    refine ⟨valid, stops_replaced replaced isCommentPart divides stops ?_, order⟩
    rintro _ other later _ _ rfl
    obtain ⟨c, first, lineBreak⟩ := breaks text other later (List.suffix_refl _)
    obtain ⟨tail, rfl⟩ := List.head?_eq_some_iff.mp first
    rw [stops_cons]
    rcases lineBreak with rfl | rfl <;> rfl
  · apply heads_upToBlank piece _ _ notBlank comment (upToBlank_replaced replaced divides) _ heads
    intro quote _ opened
    exact unclosed_replaced replaced quote opened divides []

theorem heads_blank (text other : Text) (run : Grammar.Run isBlank other)
    (divides : Divides pieces) (heads : Heads (.blank, text) (printed pieces)) :
    Heads (.blank, other) (printed changed) := by
  rw [heads_known_iff .blank _ _ (by decide)] at heads ⊢
  obtain ⟨_, stops, _⟩ := heads
  refine ⟨run, stops_replaced replaced isBlank divides stops ?_, by simp, by simp⟩
  -- A blank does not stand behind a blank.
  intro behind _ _ run stopped
  obtain ⟨c, tail, rfl⟩ := List.exists_cons_of_ne_nil run.1
  rw [stops_cons, run.2 c List.mem_cons_self] at stopped
  cases stopped

theorem divides_replaced (divides : Divides pieces) (breaks : BreaksComments changed) :
    Divides changed := by
  induction replaced with
  | nil => exact divides_nil
  | kept piece notBlank replaced ih =>
      obtain ⟨heads, dividesBehind⟩ := (divides_cons _ _).mp divides
      rw [divides_cons]
      exact ⟨heads_kept replaced piece notBlank dividesBehind breaks heads,
        ih dividesBehind (breaksComments_tail _ _ breaks)⟩
  | blank text other run replaced ih =>
      obtain ⟨heads, dividesBehind⟩ := (divides_cons _ _).mp divides
      rw [divides_cons]
      exact ⟨heads_blank replaced text other run dividesBehind heads,
        ih dividesBehind (breaksComments_tail _ _ breaks)⟩

theorem kinds_replaced : changed.map Prod.fst = pieces.map Prod.fst := by
  induction replaced with
  | nil => rfl
  | kept piece _ _ ih => rw [List.map_cons, List.map_cons, ih]
  | blank text other _ _ ih => rw [List.map_cons, List.map_cons, ih]

end Replaced

theorem unknown_mem_outline (source : Text) :
    .unknown ∈ (outline source).map Prod.fst ↔ ∃ token ∈ tokens source, token.kind = .unknown := by
  rw [outline, List.map_map, List.mem_map]
  rfl

/-- Blanks may be replaced by other blanks, one by one and each by any other, as long as a comment
still ends where it did. The text then has the same pieces with only these blanks replaced, and strict
reading accepts it if it accepts the source. -/
theorem outline_replaced (source : Text) :
    ∃ pieces, printed pieces = source ∧ outline source = pieces ++ [Token.endOfInput.piece] ∧
      ∀ changed, Reblanked pieces changed → BreaksComments changed →
        outline (printed changed) = changed ++ [Token.endOfInput.piece] ∧
        ∀ file? other?, (∃ accepted, strictTokens (printed changed) file? = .ok accepted) ↔
          ∃ accepted, strictTokens source other? = .ok accepted := by
  obtain ⟨pieces, rfl, divides⟩ := exists_divides source
  have cut := (outline_printed_iff pieces).mpr divides
  refine ⟨pieces, rfl, cut, ?_⟩
  intro changed replaced breaks
  have again := (outline_printed_iff changed).mpr (divides_replaced replaced divides breaks)
  refine ⟨again, ?_⟩
  intro file? other?
  rw [strictTokens_accepts_iff, strictTokens_accepts_iff, ← unknown_mem_outline,
    ← unknown_mem_outline, again, cut, List.map_append, List.map_append, kinds_replaced replaced]

theorem outline_replaced_around_quotes :
    let pieces (first second third : Text) : List Piece :=
      [(.comment, "//x\t".toList), (.blank, first), (.unknown, ['\'']), (.operator, ['\\']),
        (.blank, second), (.string, "\"b \"".toList), (.blank, third), (.number, ['1'])]
    let source := "//x\t\n'\\ \"b \" 1".toList
    let changed := pieces "\r\x0c".toList "\n\n".toList ['\t']
    outline source = pieces ['\n'] [' '] [' '] ++ [Token.endOfInput.piece] ∧
      Reblanked (pieces ['\n'] [' '] [' ']) changed ∧ BreaksComments changed ∧
      outline (printed changed) = changed ++ [Token.endOfInput.piece] ∧
      ∀ file? other?, (∃ accepted, strictTokens (printed changed) file? = .ok accepted) ↔
        ∃ accepted, strictTokens source other? = .ok accepted := by
  intro pieces source changed
  have cut : outline source = pieces ['\n'] [' '] [' '] ++ [Token.endOfInput.piece] := by
    decide +kernel
  have run : ∀ text : Text, text.all isBlank = true → text ≠ [] → Grammar.Run isBlank text := by
    intro text all nonempty
    exact ⟨nonempty, List.all_eq_true.mp all⟩
  have replaced : Reblanked (pieces ['\n'] [' '] [' ']) changed :=
    .kept _ (by decide) (.blank _ _ (run _ rfl (by decide)) (.kept _ (by decide)
      (.kept _ (by decide) (.blank _ _ (run _ rfl (by decide)) (.kept _ (by decide)
        (.blank _ _ (run _ rfl (by decide)) (.kept _ (by decide) .nil)))))))
  have breaks : BreaksComments changed := by
    intro comment blank later suffix
    simp only [changed, pieces, List.suffix_cons_iff, List.cons.injEq, Prod.mk.injEq, true_and,
      reduceCtorEq, false_and, and_self, List.suffix_nil, or_self, or_false] at suffix
    obtain ⟨_, rfl, _⟩ := suffix
    exact ⟨'\r', rfl, Or.inl rfl⟩
  obtain ⟨found, _, same, changing⟩ := outline_replaced source
  cases List.append_cancel_right (cut.symm.trans same)
  exact ⟨cut, replaced, breaks, changing changed replaced breaks⟩

end LexicalScan
