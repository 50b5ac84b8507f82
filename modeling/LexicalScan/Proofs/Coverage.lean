import LexicalScan.Proofs.Joining

/-!
The tokens of a source cover it. Every step takes a piece that is not empty off the front of the text,
so pulls come to an end, and the values of the pieces one behind another are the text. The end token
stands behind them all and is no piece.
-/

namespace LexicalScan

open Recognition

structure Covers (pieces : List Token) (text : Text) : Prop where
  notEnd : ∀ token ∈ pieces, token.isEnd = false
  nonempty : ∀ token ∈ pieces, token.value ≠ []
  joined : pieces.flatMap Token.value = text

theorem covers_nil : Covers [] [] := by
  constructor <;> simp

theorem covers_cons (token : Token) (pieces : List Token) (text : Text)
    (notEnd : token.isEnd = false) (nonempty : token.value ≠ []) (covers : Covers pieces text) :
    Covers (token :: pieces) (token.value ++ text) := by
  constructor
  · exact List.forall_mem_cons.mpr ⟨notEnd, covers.notEnd⟩
  · exact List.forall_mem_cons.mpr ⟨nonempty, covers.nonempty⟩
  · rw [List.flatMap_cons, covers.joined]

theorem length_le_flatMap (pieces : List Token) (nonempty : ∀ token ∈ pieces, token.value ≠ []) :
    pieces.length ≤ (pieces.flatMap Token.value).length := by
  induction pieces with
  | nil => exact Nat.le_refl 0
  | cons token later ih =>
      obtain ⟨first, others⟩ := List.forall_mem_cons.mp nonempty
      have positive := List.length_pos_iff.mpr first
      have bound := ih others
      rw [List.flatMap_cons, List.length_append, List.length_cons]
      omega

namespace Scanner

inductive Drains : Scanner → List Token → Prop where
  | stopped {scanner : Scanner} : scanner.pull? = none → Drains scanner []
  | pulled {scanner next : Scanner} {token : Token} {later : List Token} :
      scanner.pull? = some (token, next) → Drains next later → Drains scanner (token :: later)

theorem drains_items (scanner : Scanner) : Drains scanner scanner.items := by
  induction scanner using pull_induction precedence with
  | stopped scanner stopped =>
      rw [items_none scanner stopped]
      exact .stopped stopped
  | pulled scanner next token pulled ih =>
      rw [items_some scanner next token pulled]
      exact .pulled pulled ih

theorem items_cover (scanner : Scanner) (scanning : scanner.phase = .scanning) :
    ∃ pieces, scanner.items = pieces ++ [Token.endOfInput] ∧ Covers pieces scanner.rest := by
  induction scanner using pull_induction precedence with
  | stopped scanner stopped =>
      rw [(pull?_eq_none_iff scanner).mp stopped] at scanning
      cases scanning
  | pulled scanner next token pulled ih =>
      obtain ⟨_, stepped | ⟨used, _, _⟩⟩ := pull?_cases scanner next token pulled
      · have facts := step?_stepped scanner next token stepped
        obtain ⟨pieces, left, covers⟩ := ih (facts.phase.trans scanning)
        refine ⟨token :: pieces, ?_, ?_⟩
        · rw [items_some scanner next token pulled, left]
          rfl
        · rw [facts.rest]
          exact covers_cons token pieces next.rest facts.isEnd facts.nonempty covers
      · refine ⟨[], items_end scanner scanning used, ?_⟩
        rw [used]
        exact covers_nil

theorem step?_shortens (scanner : Scanner) (remains : scanner.rest ≠ []) :
    ∃ token next, scanner.step? = some (token, next) ∧
      scanner.rest = token.value ++ next.rest ∧ next.rest.length < scanner.rest.length := by
  cases stepped : scanner.step? with
  | none => exact absurd ((step?_eq_none_iff scanner).mp stepped) remains
  | some found =>
      obtain ⟨token, next⟩ := found
      refine ⟨token, next, rfl, ?_, stepBy?_rest_lt stepped⟩
      exact (step?_stepped scanner next token stepped).rest

end Scanner

theorem tokens_cover (source : Text) :
    ∃ pieces, tokens source = pieces ++ [Token.endOfInput] ∧ Covers pieces source :=
  Scanner.items_cover (Scanner.ofText source) rfl

theorem eq_endOfInput (source : Text) (token : Token) (member : token ∈ tokens source)
    (isEnd : token.isEnd = true) : token = Token.endOfInput := by
  obtain ⟨pieces, all, covers⟩ := tokens_cover source
  rw [all] at member
  rcases List.mem_append.mp member with piece | last
  · rw [covers.notEnd token piece] at isEnd
    cases isEnd
  · exact List.mem_singleton.mp last

/-- Whether each piece is taken off the front of the text of itself and the pieces behind it. -/
def Divides (pieces : List Piece) : Prop :=
  ∀ piece later, piece :: later <:+ pieces → Heads piece (printed later)

theorem divides_nil : Divides [] := by
  intro piece later suffix
  cases List.suffix_nil.mp suffix

theorem divides_cons (first : Piece) (pieces : List Piece) :
    Divides (first :: pieces) ↔ Heads first (printed pieces) ∧ Divides pieces :=
  forall_suffix_cons (fun piece later => Heads piece (printed later)) first pieces

theorem divides_suffix (pieces later : List Piece) (divides : Divides pieces)
    (suffix : later <:+ pieces) : Divides later := by
  intro piece behind inside
  exact divides piece behind (inside.trans suffix)

theorem divides_empty (pieces : List Piece) (divides : Divides pieces)
    (empty : printed pieces = []) : pieces = [] := by
  cases pieces with
  | nil => rfl
  | cons first pieces =>
      have nonempty := ((divides_cons first pieces).mp divides).1.nonempty
      exact absurd (List.append_eq_nil_iff.mp empty).1 nonempty

theorem divides_append (left right : List Piece) (behind : Divides right)
    (inFront : ∀ piece later, piece :: later <:+ left →
      Heads piece (printed later ++ printed right)) : Divides (left ++ right) := by
  induction left with
  | nil => exact behind
  | cons piece left ih =>
      obtain ⟨first, others⟩ := (forall_suffix_cons
        (fun piece later => Heads piece (printed later ++ printed right)) piece left).mp inFront
      rw [List.cons_append, divides_cons, printed_append]
      exact ⟨first, ih others⟩

theorem printed_pieces (pieces : List Token) :
    printed (pieces.map Token.piece) = pieces.flatMap Token.value := by
  rw [printed, List.flatMap_map]
  rfl

theorem covers_divides (source : Text) (pieces : List Token)
    (all : tokens source = pieces ++ [Token.endOfInput]) (covers : Covers pieces source) :
    printed (pieces.map Token.piece) = source ∧ Divides (pieces.map Token.piece) := by
  have joined : printed (pieces.map Token.piece) = source := by
    rw [printed_pieces, covers.joined]
  refine ⟨joined, (outline_printed_iff _).mp ?_⟩
  rw [joined, outline, all, List.map_append]
  rfl

theorem exists_divides (source : Text) : ∃ pieces, printed pieces = source ∧ Divides pieces := by
  obtain ⟨pieces, all, covers⟩ := tokens_cover source
  exact ⟨_, covers_divides source pieces all covers⟩

/-- The end token stands behind all pieces, so what stands behind a piece ends with it. -/
theorem pieces_behind (pieces earlier later : List Token) (token : Token)
    (split : pieces ++ [Token.endOfInput] = earlier ++ token :: later)
    (notEnd : token.isEnd = false) :
    ∃ behind, pieces = earlier ++ token :: behind ∧ later = behind ++ [Token.endOfInput] := by
  rcases List.eq_nil_or_concat later with rfl | ⟨behind, last, rfl⟩
  · cases List.append_inj_right' split rfl
    cases notEnd
  · have ended : pieces ++ [Token.endOfInput] = (earlier ++ token :: behind) ++ [last] := by
      rw [split]
      simp
    cases List.append_inj_right' ended rfl
    exact ⟨behind, List.append_inj_left' ended rfl, List.concat_eq_append⟩

/-- A token other than the end token stands in the source behind the values of the tokens in front of
it, and it is the piece that heads the source from there on. -/
theorem tokens_heads (source : Text) (earlier later : List Token) (token : Token)
    (split : tokens source = earlier ++ token :: later) (notEnd : token.isEnd = false) :
    ∃ rest, source = earlier.flatMap Token.value ++ token.value ++ rest ∧
      Heads token.piece rest := by
  obtain ⟨pieces, all, covers⟩ := tokens_cover source
  obtain ⟨behind, rfl, _⟩ := pieces_behind pieces earlier later token (all.symm.trans split) notEnd
  refine ⟨printed (behind.map Token.piece), ?_, ?_⟩
  · rw [printed_pieces, ← covers.joined, List.flatMap_append, List.flatMap_cons,
      List.append_assoc]
  · apply (covers_divides source _ all covers).2 token.piece
    rw [List.map_append, List.map_cons]
    exact List.suffix_append _ _

theorem tokens_heads_later (source : Text) (earlier between behind : List Token)
    (first later : Token)
    (split : tokens source = earlier ++ first :: (between ++ later :: behind))
    (firstNotEnd : first.isEnd = false) (laterNotEnd : later.isEnd = false) :
    ∃ rest, Heads first.piece (between.flatMap Token.value ++ (later.value ++ rest)) ∧
      Heads later.piece rest := by
  have splitLater : tokens source = (earlier ++ first :: between) ++ later :: behind := by
    rw [split, List.append_assoc, List.cons_append]
  obtain ⟨restFirst, cut, headsFirst⟩ := tokens_heads source earlier _ first split firstNotEnd
  obtain ⟨rest, cutLater, headsLater⟩ := tokens_heads source _ behind later splitLater laterNotEnd
  have restFirst_eq : restFirst = between.flatMap Token.value ++ (later.value ++ rest) := by
    apply List.append_cancel_left (cut.symm.trans _)
    rw [cutLater, List.flatMap_append, List.flatMap_cons]
    simp only [List.append_assoc]
  rw [restFirst_eq] at headsFirst
  exact ⟨rest, headsFirst, headsLater⟩

/-- Pulls of the tokens of a source come to an end. The end token is the last of them and stands there
once, the other tokens cover the source, and there are no more of them than characters. A step takes
its token off the front of any text that is left. -/
theorem tokens_lossless (source : Text) :
    Scanner.Drains (Scanner.ofText source) (tokens source) ∧
      (∃ pieces, tokens source = pieces ++ [Token.endOfInput] ∧
        (∀ token ∈ pieces, token.isEnd = false ∧ token.value ≠ []) ∧
        pieces.flatMap Token.value = source) ∧
      (tokens source).length ≤ source.length + 1 ∧
      ∀ scanner : Scanner, scanner.rest ≠ [] →
        ∃ token next, scanner.step? = some (token, next) ∧
          scanner.rest = token.value ++ next.rest ∧ next.rest.length < scanner.rest.length := by
  obtain ⟨pieces, all, covers⟩ := tokens_cover source
  refine ⟨Scanner.drains_items (Scanner.ofText source), ⟨pieces, all, ?_, covers.joined⟩, ?_,
    Scanner.step?_shortens⟩
  · intro token member
    exact ⟨covers.notEnd token member, covers.nonempty token member⟩
  · have bound := length_le_flatMap pieces covers.nonempty
    rw [covers.joined] at bound
    rw [all, List.length_append, List.length_singleton]
    omega

end LexicalScan
