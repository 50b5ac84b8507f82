import LexicalScan.Proofs.Division

/-!
Tokens of a text that stands behind another text. The tokens are the same but for their places: the
first line goes on where the other text ends, and the lines below it are only counted on. So a text is
scanned line by line, as long as no line ends inside a string or in a blank. A scanner that stopped
anywhere goes on with the tokens of the text it has left.
-/

namespace LexicalScan

open Recognition Alphabet

namespace Position

/-- A place in a text, seen from a longer text in which the text begins at `origin`. -/
def movedTo (position origin : Position) : Position :=
  if position.row = 1 then ⟨origin.row, origin.col + position.col - 1⟩
  else ⟨origin.row + position.row - 1, position.col⟩

theorem behind_append (front rest : Text) :
    behind (front ++ rest) = (behind rest).movedTo (behind front) := by
  by_cases newline : '\n' ∈ rest
  · have place : behind rest = ⟨1 + rest.count '\n', (Text.lastLine rest).length + 1⟩ :=
      behind_newline [] rest newline
    have below : 1 + rest.count '\n' ≠ 1 := by
      have positive := List.count_pos_iff.mpr newline
      omega
    rw [behind_newline front rest newline, place, movedTo, if_neg below]
    simp only [Position.mk.injEq, and_true]
    omega
  · have place : behind rest = ⟨1, 1 + rest.length⟩ := behind_along [] rest newline
    rw [behind_along front rest newline, place, movedTo, if_pos rfl, along]
    simp only [Position.mk.injEq, true_and]
    omega

end Position

def Token.movedTo (token : Token) (origin : Position) : Token :=
  { token with position? := token.position?.map (·.movedTo origin) }

theorem placed_movedTo (front before : Text) (pieces : List Piece) :
    placed (front ++ before) pieces =
      (placed before pieces).map (·.movedTo (Position.behind front)) := by
  induction pieces generalizing before with
  | nil => rfl
  | cons piece later ih =>
      rw [placed, placed, List.map_cons, List.append_assoc, ih, Position.behind_append]
      rfl

namespace Recognition

/-- A piece is taken in front of a new line as it is in front of the end of the text, unless it is a
blank or a quote that the new line may close. -/
theorem heads_before_line (piece : Piece) (rest below : Text) (heads : Heads piece rest)
    (unblank : rest = [] → piece.1 ≠ .blank)
    (closed : ∀ quote, piece = (.unknown, [quote]) → isQuote quote = false) :
    Heads piece (rest ++ '\n' :: below) := by
  obtain ⟨kind, text⟩ := piece
  by_cases blank : kind = .blank
  · subst blank
    rw [heads_known_iff .blank _ _ (by decide)] at heads ⊢
    obtain ⟨valid, stops, order⟩ := heads
    refine ⟨valid, stops_append_cons isBlank rest below '\n' stops ?_, order⟩
    intro empty
    exact absurd rfl (unblank empty)
  by_cases comment : kind = .comment
  · subst comment
    rw [heads_known_iff .comment _ _ (by decide)] at heads ⊢
    obtain ⟨valid, stops, order⟩ := heads
    exact ⟨valid, stops_append_cons isCommentPart rest below '\n' stops fun _ => rfl, order⟩
  · have alike : upToBlank rest = upToBlank (rest ++ '\n' :: below) := by
      have goesOn := upToBlank_append rest [] ('\n' :: below) rfl
      rwa [List.append_nil] at goesOn
    apply heads_upToBlank (kind, text) rest _ blank comment alike _ heads
    intro quote same opened
    rw [closed quote same] at opened
    cases opened

end Recognition

/-- Below a text that leaves no string open and does not end in a blank, a new line and all behind it
are scanned as they are by themselves. -/
theorem tokens_append_line (above below : Text)
    (closed : ∀ token ∈ tokens above, ∀ quote, token.kind = .unknown → token.value = [quote] →
      isQuote quote = false)
    (unblank : ∀ earlier last, tokens above = earlier ++ [last, Token.endOfInput] →
      last.kind ≠ .blank) :
    ∃ pieces, tokens above = pieces ++ [Token.endOfInput] ∧
      tokens (above ++ '\n' :: below) =
        pieces ++ (tokens ('\n' :: below)).map (·.movedTo (Position.behind above)) := by
  obtain ⟨upper, rfl, divides⟩ := exists_divides above
  obtain ⟨lower, joined, dividesLower⟩ := exists_divides ('\n' :: below)
  have upperTokens := tokens_placed upper divides
  have inFront : ∀ piece later, piece :: later <:+ upper →
      Heads piece (printed later ++ printed lower) := by
    intro piece later suffix
    rw [joined]
    apply heads_before_line piece (printed later) below (divides piece later suffix)
    · intro atEnd
      have dividesLater :=
        divides_suffix upper later divides ((List.suffix_cons piece later).trans suffix)
      cases divides_empty later dividesLater atEnd
      obtain ⟨front, split⟩ := suffix
      apply unblank (placed [] front) ⟨piece.1, piece.2, some (Position.behind (printed front))⟩
      rw [upperTokens, ← split, placed_append, List.append_assoc]
      rfl
    · rintro quote rfl
      obtain ⟨token, member, same⟩ := placed_piece [] upper _ (suffix.subset List.mem_cons_self)
      obtain ⟨kind, value⟩ := Prod.mk.inj same
      apply closed token _ quote kind value
      rw [upperTokens]
      exact List.mem_append_left _ member
  have whole := tokens_placed (upper ++ lower) (divides_append upper lower dividesLower inFront)
  refine ⟨placed [] upper, upperTokens, ?_⟩
  rw [← joined, ← printed_append, whole, placed_append, tokens_placed lower dividesLower,
    List.map_append, ← placed_movedTo, List.append_nil, List.append_assoc]
  rfl

theorem tokens_append_line_number :
    let above := "x'p\nq' 1.".toList
    let below := " 0f\n'u".toList
    (∀ token ∈ tokens above, ∀ quote, token.kind = .unknown → token.value = [quote] →
      isQuote quote = false) ∧
    (∀ earlier last, tokens above = earlier ++ [last, Token.endOfInput] → last.kind ≠ .blank) ∧
    Position.behind above = ⟨2, 6⟩ ∧
    ∃ pieces, tokens above = pieces ++ [Token.endOfInput] ∧
      tokens (above ++ '\n' :: below) =
        pieces ++ (tokens ('\n' :: below)).map (·.movedTo (Position.behind above)) := by
  intro above below
  have scanned : tokens above = [⟨.symbol, ['x'], some ⟨1, 1⟩⟩,
      ⟨.string, "'p\nq'".toList, some ⟨1, 2⟩⟩, ⟨.blank, [' '], some ⟨2, 3⟩⟩,
      ⟨.number, ['1'], some ⟨2, 4⟩⟩] ++ [⟨.unknown, ['.'], some ⟨2, 5⟩⟩, Token.endOfInput] := by
    decide +kernel
  have closed : ∀ token ∈ tokens above, ∀ quote, token.kind = .unknown →
      token.value = [quote] → isQuote quote = false := by
    rw [scanned]
    intro token member quote unknown value
    have known : token = ⟨.unknown, ['.'], some ⟨2, 5⟩⟩ := by
      simp only [List.mem_append, List.mem_cons, List.not_mem_nil, or_false] at member
      rcases member with (rfl | rfl | rfl | rfl) | (rfl | rfl) <;> first | rfl | cases unknown
    subst known
    cases value
    rfl
  have unblank : ∀ earlier last, tokens above = earlier ++ [last, Token.endOfInput] →
      last.kind ≠ .blank := by
    intro earlier last split
    have same := List.append_inj_right' (scanned.symm.trans split) rfl
    cases same
    decide
  exact ⟨closed, unblank, rfl, tokens_append_line above below closed unblank⟩

namespace Scanner

/-- The items of a scanner that stands behind some text are the tokens of the text that is left, seen
from its cursor. -/
theorem items_movedTo (source before : Text) (scanner : Scanner)
    (scanning : scanner.phase = .scanning) (tracks : Tracks source before scanner) :
    scanner.items = (tokens scanner.rest).map (·.movedTo scanner.cursor) := by
  obtain ⟨pieces, rest, divides⟩ := exists_divides scanner.rest
  have left := items_placed pieces divides scanner before scanning tracks.2 rest.symm
  have moved := placed_movedTo before [] pieces
  rw [List.append_nil] at moved
  rw [left, moved, ← rest, tokens_placed pieces divides, List.map_append, tracks.2]
  rfl

theorem phase_step (scanner : Scanner) : (scanner.answer .step).2.phase = scanner.phase := by
  rw [answer]
  cases stepped : scanner.step? with
  | none => rfl
  | some found => exact (step?_stepped scanner found.2 found.1 stepped).phase

theorem phase_perform_steps (calls : List Call) (steps : ∀ call ∈ calls, call = .step)
    (scanner : Scanner) : (scanner.perform calls).2.phase = scanner.phase := by
  induction calls generalizing scanner with
  | nil => rfl
  | cons call later ih =>
      obtain ⟨rfl, others⟩ := List.forall_mem_cons.mp steps
      rw [perform, ih others, phase_step]

/-- Behind any calls the items still to come are the tokens of the text that is left, seen from the
cursor, unless the stream has ended. Steps do not end it. -/
theorem perform_restarted (source : Text) (calls : List Call) :
    let scanner := ((ofText source).perform calls).2
    scanner.items =
        (if scanner.phase = .scanning then (tokens scanner.rest).map (·.movedTo scanner.cursor)
          else []) ∧
      ((∀ call ∈ calls, call = .step) → scanner.phase = .scanning) := by
  intro scanner
  constructor
  · obtain ⟨before, tracks⟩ := perform_tracks source calls
    split
    · rename_i scanning
      exact items_movedTo source before scanner scanning tracks
    · rename_i ended
      cases phase : scanner.phase with
      | scanning => exact absurd phase ended
      | exhausted => exact items_exhausted scanner phase
  · intro steps
    exact phase_perform_steps calls steps (ofText source)

end Scanner

end LexicalScan
