import LexicalScan.Proofs.Borders
import LexicalScan.Proofs.Stream

/-!
Printing pieces one behind another and scanning the text again. The pieces come back exactly if each
of them comes back alone and no piece runs into what stands behind it. For most kinds it is enough to
look at the next piece. A number may look one piece further, and a quote that was never closed must
not be closed anywhere behind it.
-/

namespace LexicalScan

open Recognition Alphabet

def Token.piece (token : Token) : Piece := (token.kind, token.value)

def outline (source : Text) : List Piece := (tokens source).map Token.piece

def printed (pieces : List Piece) : Text := pieces.flatMap Prod.snd

/-- Which pieces may stand behind a piece. -/
structure Parted (piece : Piece) (later : List Piece) : Prop where
  blank : piece.1 = .blank → ∀ next ∈ later.head?, next.1 ≠ .blank
  operator : piece.1 = .operator → ∀ next ∈ later.head?, next.1 ≠ .operator ∧ next.1 ≠ .comment
  comment : piece.1 = .comment →
    ∀ next ∈ later.head?, next.1 = .blank ∧ ∃ c ∈ next.2.head?, c = '\r' ∨ c = '\n'
  symbol : piece.1 = .symbol →
    ∀ next ∈ later.head?, next.1 ≠ .symbol ∧ next.1 ≠ .number ∧ next ≠ (.unknown, ['_'])
  number : piece.1 = .number →
    ∀ next ∈ later.head?, next.1 ≠ .number ∧
      (next.1 = .symbol → ∀ c ∈ next.2.head?, isHexLetter c = false)
  zero : piece = (.number, ['0']) →
    ∀ mark digit tail, (.symbol, mark :: digit :: tail) ∈ later.head? →
      mark = 'x' ∨ mark = 'o' → isHexDigit digit = false
  point : piece.1 = .number → '.' ∉ piece.2 →
    ∀ next behind, later = (.unknown, ['.']) :: next :: behind →
      ∀ c ∈ next.2.head?, isHexDigit c = false

theorem printed_cons (piece : Piece) (later : List Piece) :
    printed (piece :: later) = piece.2 ++ printed later := rfl

theorem printed_append (left right : List Piece) :
    printed (left ++ right) = printed left ++ printed right := List.flatMap_append

theorem forall_suffix_cons (holds : Piece → List Piece → Prop) (first : Piece)
    (pieces : List Piece) :
    (∀ piece later, piece :: later <:+ first :: pieces → holds piece later) ↔
      holds first pieces ∧ ∀ piece later, piece :: later <:+ pieces → holds piece later := by
  constructor
  · intro all
    refine ⟨all first pieces (List.suffix_refl _), ?_⟩
    intro piece later suffix
    exact all piece later (List.suffix_cons_iff.mpr (Or.inr suffix))
  · rintro ⟨atFirst, behind⟩ piece later suffix
    rcases List.suffix_cons_iff.mp suffix with same | suffix
    · cases same
      exact atFirst
    · exact behind piece later suffix

namespace Scanner

theorem step?_heads_iff (scanner next : Scanner) (token : Token) (piece : Piece) (behind : Text)
    (split : scanner.rest = piece.2 ++ behind)
    (stepped : scanner.step? = some (token, next)) :
    Heads piece behind ↔ token.piece = piece := by
  have facts := step?_stepped scanner next token stepped
  have classified := facts.classified
  rw [Heads, ← split, classified]
  constructor
  · intro same
    obtain ⟨kind, length⟩ := Prod.mk.inj same
    have rest := facts.rest.symm.trans split
    exact Prod.ext kind (List.append_inj rest length).1
  · rintro rfl
    rfl

theorem items_printed_iff (pieces : List Piece) (scanner : Scanner)
    (scanning : scanner.phase = .scanning) (split : scanner.rest = printed pieces) :
    scanner.items.map Token.piece = pieces ++ [Token.endOfInput.piece] ↔
      ∀ piece later, piece :: later <:+ pieces → Heads piece (printed later) := by
  -- Each step takes one piece off both lists, or the first piece is not taken as it is.
  induction pieces generalizing scanner with
  | nil =>
      rw [items_end scanner scanning split]
      refine iff_of_true rfl ?_
      intro piece later suffix
      cases List.suffix_nil.mp suffix
  | cons first pieces ih =>
      rw [forall_suffix_cons]
      rw [printed_cons] at split
      cases stepped : scanner.step? with
      | none =>
          have used := (step?_eq_none_iff scanner).mp stepped
          rw [items_end scanner scanning used]
          apply iff_of_false
          · intro same
            have noMore := (List.cons.inj same).2
            exact absurd noMore.symm
              (List.append_ne_nil_of_right_ne_nil pieces (List.cons_ne_nil _ _))
          · rintro ⟨heads, _⟩
            obtain ⟨c, tail, value⟩ := heads_cons first.1 first.2 (printed pieces) heads
            rw [used, value] at split
            cases split
      | some found =>
          obtain ⟨token, next⟩ := found
          have facts := step?_stepped scanner next token stepped
          have pulled := pull?_step scanner next token scanning stepped
          have nextScanning : next.phase = .scanning := by rw [facts.phase, scanning]
          rw [items_some scanner next token pulled, List.map_cons, List.cons_append,
            List.cons.injEq, step?_heads_iff scanner next token first _ split stepped]
          refine and_congr_right ?_
          rintro rfl
          have rest : next.rest = printed pieces :=
            List.append_cancel_left (facts.rest.symm.trans split)
          exact ih next nextScanning rest

end Scanner

theorem outline_printed_iff (pieces : List Piece) :
    outline (printed pieces) = pieces ++ [Token.endOfInput.piece] ↔
      ∀ piece later, piece :: later <:+ pieces → Heads piece (printed later) :=
  Scanner.items_printed_iff pieces (Scanner.ofText (printed pieces)) rfl rfl

theorem outline_alone_iff (piece : Piece) :
    outline piece.2 = [piece, Token.endOfInput.piece] ↔ Heads piece [] := by
  have single : printed [piece] = piece.2 := List.append_nil piece.2
  have alone := outline_printed_iff [piece]
  rw [single, forall_suffix_cons] at alone
  refine alone.trans ?_
  constructor
  · intro both
    exact both.1
  · intro heads
    refine ⟨heads, ?_⟩
    intro other later suffix
    cases List.suffix_nil.mp suffix

/-! The text behind a piece begins as the next piece does, and the first character of the next piece
tells its kind. -/
section Next

variable {later : List Piece} (alone : ∀ next ∈ later, Heads next [])

include alone

theorem stops_printed_iff (isMember : Char → Bool) (good : Piece → Prop)
    (decides : ∀ kind c tail, Heads (kind, c :: tail) [] →
      (isMember c = false ↔ good (kind, c :: tail))) :
    Stops isMember (printed later) ↔ ∀ next ∈ later.head?, good next := by
  cases later with
  | nil => simp [printed, stops_nil]
  | cons next behind =>
      obtain ⟨kind, value⟩ := next
      have heads := alone (kind, value) List.mem_cons_self
      obtain ⟨c, tail, rfl⟩ := heads_cons kind value [] heads
      rw [printed_cons, List.cons_append, stops_cons, decides kind c tail heads]
      simp

theorem stops_blank_iff :
    Stops isBlank (printed later) ↔ ∀ next ∈ later.head?, next.1 ≠ .blank := by
  apply stops_printed_iff alone isBlank (fun next => next.1 ≠ .blank)
  intro kind c tail heads
  rw [← Bool.not_eq_true, isBlank_iff kind c tail heads]

theorem stops_operator_iff :
    Stops isOperator (printed later) ↔
      ∀ next ∈ later.head?, next.1 ≠ .operator ∧ next.1 ≠ .comment := by
  apply stops_printed_iff alone isOperator (fun next => next.1 ≠ .operator ∧ next.1 ≠ .comment)
  intro kind c tail heads
  rw [← Bool.not_eq_true, isOperator_iff kind c tail heads, not_or]

theorem stops_comment_iff :
    Stops isCommentPart (printed later) ↔
      ∀ next ∈ later.head?, next.1 = .blank ∧ ∃ c ∈ next.2.head?, c = '\r' ∨ c = '\n' := by
  apply stops_printed_iff alone isCommentPart
    (fun next => next.1 = .blank ∧ ∃ c ∈ next.2.head?, c = '\r' ∨ c = '\n')
  intro kind c tail heads
  rw [← isBlank_iff kind c tail heads, ← Bool.not_eq_true, isCommentPart_iff,
    Bool.not_eq_false, isLineBreak, Bool.or_eq_true, beq_iff_eq, beq_iff_eq]
  constructor
  · rintro (rfl | rfl)
    · exact ⟨rfl, _, rfl, Or.inr rfl⟩
    · exact ⟨rfl, _, rfl, Or.inl rfl⟩
  · rintro ⟨_, d, first, lineBreak⟩
    cases first
    exact lineBreak.symm

theorem stops_symbol_iff :
    Stops isSymbolPart (printed later) ↔
      ∀ next ∈ later.head?,
        next.1 ≠ .symbol ∧ next.1 ≠ .number ∧ next ≠ (.unknown, ['_']) := by
  apply stops_printed_iff alone isSymbolPart
    (fun next => next.1 ≠ .symbol ∧ next.1 ≠ .number ∧ next ≠ (.unknown, ['_']))
  intro kind c tail heads
  have underscore : c = '_' ↔ (kind, c :: tail) = (.unknown, ['_']) := by
    constructor
    · rintro rfl
      obtain ⟨rfl, rfl⟩ := unknown_of_heads kind '_' tail heads (by decide)
      rfl
    · intro same
      cases same
      rfl
  rw [← Bool.not_eq_true, isSymbolPart, Char.isAlphanum, Bool.or_eq_true, Bool.or_eq_true,
    ← isLetter, isLetter_iff kind c tail heads, isDigit_iff kind c tail heads, beq_iff_eq,
    underscore, not_or, not_or, and_assoc]

theorem stops_hexDigit_iff :
    Stops isHexDigit (printed later) ↔
      ∀ next ∈ later.head?, next.1 ≠ .number ∧
        (next.1 = .symbol → ∀ c ∈ next.2.head?, isHexLetter c = false) := by
  apply stops_printed_iff alone isHexDigit (fun next => next.1 ≠ .number ∧
    (next.1 = .symbol → ∀ c ∈ next.2.head?, isHexLetter c = false))
  intro kind c tail heads
  rw [isHexDigit_eq, Bool.or_eq_false_iff, ← Bool.not_eq_true, isDigit_iff kind c tail heads]
  refine and_congr_right fun _ => ?_
  constructor
  · intro notHex _ d first
    cases first
    exact notHex
  · intro notHex
    apply Bool.eq_false_iff.mpr
    intro isHex
    have symbol := (isLetter_iff kind c tail heads).mp (hexLetter_letter c isHex)
    rw [notHex symbol c rfl] at isHex
    cases isHex

theorem parted_of_border (piece : Piece) (border : Border piece (printed later)) :
    Parted piece later := by
  have ends := border.ends
  refine ⟨?_, ?_, ?_, ?_, ?_, ?_, ?_⟩
  · intro blank
    rw [blank] at ends
    exact (stops_blank_iff alone).mp ends
  · intro operator
    rw [operator] at ends
    exact (stops_operator_iff alone).mp ends
  · intro comment
    rw [comment] at ends
    exact (stops_comment_iff alone).mp ends
  · intro symbol
    rw [symbol] at ends
    exact (stops_symbol_iff alone).mp ends
  · intro number
    rw [number] at ends
    exact (stops_hexDigit_iff alone).mp ends.noDigit
  · rintro rfl mark digit tail first isMark
    obtain ⟨behind, rfl⟩ := List.head?_eq_some_iff.mp first
    apply Bool.eq_false_iff.mpr
    intro isDigit
    apply ends.noMark rfl
    refine ⟨mark, digit, tail ++ printed behind, rfl, ?_, isDigit⟩
    rcases isMark with rfl | rfl <;> decide
  · rintro number noPoint next behind rfl c first
    rw [number] at ends
    apply Bool.eq_false_iff.mpr
    intro isDigit
    apply ends.noPoint noPoint
    obtain ⟨tail, value⟩ := List.head?_eq_some_iff.mp first
    refine ⟨c, tail ++ printed behind, ?_, isDigit⟩
    rw [printed_cons, printed_cons, value]
    rfl

theorem printed_eq_cons (c : Char) (rest : Text) (split : printed later = c :: rest) :
    ∃ kind tail behind, later = (kind, c :: tail) :: behind ∧ rest = tail ++ printed behind ∧
      Heads (kind, c :: tail) [] ∧ ∀ next ∈ behind, Heads next [] := by
  cases later with
  | nil => cases split
  | cons next behind =>
      obtain ⟨kind, value⟩ := next
      have heads := alone (kind, value) List.mem_cons_self
      obtain ⟨d, tail, rfl⟩ := heads_cons kind value [] heads
      rw [printed_cons] at split
      cases split
      refine ⟨kind, tail, behind, rfl, rfl, heads, ?_⟩
      intro next member
      exact alone next (List.mem_cons_of_mem _ member)

/-- A zero does not become the mark of a base, since a letter by itself is not followed by a digit. -/
theorem unmarked_of_parted (parted : Parted (.number, ['0']) later)
    (partedNext : ∀ next behind, later = next :: behind → Parted next behind) :
    ¬ Marks (printed later) := by
  rintro ⟨mark, digit, rest, split, isMark, isDigit⟩
  obtain ⟨kind, tail, behind, rfl, rest_eq, heads, aloneBehind⟩ :=
    printed_eq_cons alone mark _ split
  have symbol := (isLetter_iff kind mark tail heads).mp (radixMark_letter mark isMark)
  subst kind
  have noHex : isHexLetter mark = false := (parted.number rfl _ rfl).2 rfl mark rfl
  have isBase : mark = 'x' ∨ mark = 'o' := by
    rcases radixMark_cases mark isMark with isHex | isBase
    · rw [noHex] at isHex
      cases isHex
    · exact isBase
  cases tail with
  | cons second tail =>
      cases rest_eq
      rw [parted.zero rfl mark digit tail rfl isBase] at isDigit
      cases isDigit
  | nil =>
      -- The digit would begin the next piece, but a symbol does not end in front of one.
      have stops := (stops_symbol_iff aloneBehind).mpr ((partedNext _ _ rfl).symbol rfl)
      rw [List.nil_append] at rest_eq
      rw [← rest_eq, stops_cons, isSymbolPart, hexDigit_alphanum digit isDigit] at stops
      cases stops

theorem unpointed_of_parted (value : Text) (noPoint : '.' ∉ value)
    (parted : Parted (.number, value) later) : ¬ Points (printed later) := by
  rintro ⟨digit, rest, split, isDigit⟩
  obtain ⟨kind, tail, behind, rfl, rest_eq, heads, aloneBehind⟩ :=
    printed_eq_cons alone '.' _ split
  -- A point opens no kind, so it is a piece by itself and the digit begins the one behind it.
  obtain ⟨rfl, rfl⟩ := unknown_of_heads kind '.' tail heads (by decide)
  obtain ⟨next, tail, further, rfl, _⟩ := printed_eq_cons aloneBehind digit rest rest_eq.symm
  rw [parted.point rfl noPoint _ further rfl digit rfl] at isDigit
  cases isDigit

theorem border_of_parted (piece : Piece) (parted : Parted piece later)
    (partedNext : ∀ next behind, later = next :: behind → Parted next behind)
    (unclosed : ∀ quote, piece = (.unknown, [quote]) → isQuote quote = true →
      Unclosed quote (printed later)) :
    Border piece (printed later) := by
  obtain ⟨kind, value⟩ := piece
  refine ⟨?_, unclosed⟩
  cases kind with
  | blank => exact (stops_blank_iff alone).mpr (parted.blank rfl)
  | operator => exact (stops_operator_iff alone).mpr (parted.operator rfl)
  | comment => exact (stops_comment_iff alone).mpr (parted.comment rfl)
  | symbol => exact (stops_symbol_iff alone).mpr (parted.symbol rfl)
  | number =>
      refine ⟨(stops_hexDigit_iff alone).mpr (parted.number rfl), ?_, ?_⟩
      · rintro rfl
        exact unmarked_of_parted alone parted partedNext
      · intro noPoint
        exact unpointed_of_parted alone value noPoint parted
  | punctuation | string | unknown | endOfInput => trivial

end Next

/-- Pieces come back from the text that they are printed to exactly if each of them comes back alone,
no two neighbours run together, and no quote that was left open is closed behind. -/
theorem outline_printed_exact (pieces : List Piece) :
    outline (printed pieces) = pieces ++ [Token.endOfInput.piece] ↔
      (∀ piece ∈ pieces, outline piece.2 = [piece, Token.endOfInput.piece]) ∧
        (∀ piece later, piece :: later <:+ pieces → Parted piece later) ∧
        ∀ quote later, (.unknown, [quote]) :: later <:+ pieces → isQuote quote = true →
          Unclosed quote (printed later) := by
  simp only [outline_printed_iff, outline_alone_iff]
  have within : ∀ (piece : Piece) (later : List Piece), piece :: later <:+ pieces →
      piece ∈ pieces ∧ ∀ next ∈ later, next ∈ pieces := by
    intro piece later suffix
    refine ⟨suffix.subset List.mem_cons_self, ?_⟩
    intro next member
    exact suffix.subset (List.mem_cons_of_mem piece member)
  constructor
  · intro heads
    have alone : ∀ piece ∈ pieces, Heads piece [] := by
      intro piece member
      obtain ⟨before, later, split⟩ := List.append_of_mem member
      exact ((heads_iff piece _).mp (heads piece later ⟨before, split.symm⟩)).1
    have border : ∀ piece later, piece :: later <:+ pieces → Border piece (printed later) := by
      intro piece later suffix
      exact ((heads_iff piece _).mp (heads piece later suffix)).2
    refine ⟨alone, ?_, ?_⟩
    · intro piece later suffix
      have aloneLater := fun next member => alone next ((within piece later suffix).2 next member)
      exact parted_of_border aloneLater piece (border piece later suffix)
    · intro quote later suffix
      exact (border _ later suffix).unclosed quote rfl
  · rintro ⟨alone, parted, unclosed⟩ piece later suffix
    have aloneLater := fun next member => alone next ((within piece later suffix).2 next member)
    rw [heads_iff]
    refine ⟨alone piece (within piece later suffix).1, ?_⟩
    apply border_of_parted aloneLater piece (parted piece later suffix)
    · rintro next behind rfl
      exact parted next behind ((List.suffix_cons piece _).trans suffix)
    · rintro quote rfl
      exact unclosed quote later suffix

end LexicalScan
