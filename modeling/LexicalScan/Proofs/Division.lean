import LexicalScan.Proofs.Coverage
import LexicalScan.Proofs.Cursor

/-!
The tokens of a text as a division of it gives them. If a text is divided into pieces that are each
taken in front of the pieces behind them, its tokens are these pieces, each at the place behind the text
of the pieces in front of it.
-/

namespace LexicalScan

open Recognition

def placed : Text → List Piece → List Token
  | _, [] => []
  | before, piece :: later =>
    ⟨piece.1, piece.2, some (Position.behind before)⟩ :: placed (before ++ piece.2) later

theorem placed_append (before : Text) (left right : List Piece) :
    placed before (left ++ right) =
      placed before left ++ placed (before ++ printed left) right := by
  induction left generalizing before with
  | nil => simp [placed, printed]
  | cons piece left ih =>
      rw [List.cons_append, placed, placed, ih, printed_cons, List.append_assoc]
      rfl

theorem placed_piece (before : Text) (pieces : List Piece) (piece : Piece)
    (member : piece ∈ pieces) : ∃ token ∈ placed before pieces, token.piece = piece := by
  induction pieces generalizing before with
  | nil => cases member
  | cons first later ih =>
      rcases List.mem_cons.mp member with rfl | member
      · exact ⟨_, List.mem_cons_self, rfl⟩
      · obtain ⟨token, found, same⟩ := ih (before ++ first.2) member
        exact ⟨token, List.mem_cons_of_mem _ found, same⟩

/-- The items of a scanner that stands behind some text are the pieces of the text that is left, in
their places. -/
theorem Scanner.items_placed (pieces : List Piece) (divides : Divides pieces) (scanner : Scanner)
    (before : Text) (scanning : scanner.phase = .scanning)
    (cursor : scanner.cursor = Position.behind before) (split : scanner.rest = printed pieces) :
    scanner.items = placed before pieces ++ [Token.endOfInput] := by
  induction pieces generalizing scanner before with
  | nil => exact items_end scanner scanning split
  | cons first pieces ih =>
      obtain ⟨heads, rest_divides⟩ := (divides_cons first pieces).mp divides
      rw [printed_cons] at split
      have remains : scanner.rest ≠ [] := by
        obtain ⟨c, tail, value⟩ := heads_cons first.1 first.2 (printed pieces) heads
        rw [split, value]
        exact List.cons_ne_nil _ _
      obtain ⟨token, next, stepped, _⟩ := step?_shortens scanner remains
      have facts := step?_stepped scanner next token stepped
      have taken := (step?_heads_iff scanner next token first _ split stepped).mp heads
      subst taken
      have further := tracks_step (before ++ scanner.rest) before scanner next token
        ⟨rfl, cursor⟩ stepped
      have rest : next.rest = printed pieces :=
        List.append_cancel_left (facts.rest.symm.trans split)
      have token_eq : token = ⟨token.kind, token.value, some (Position.behind before)⟩ := by
        rw [← cursor, ← facts.place]
      rw [items_some scanner next token (pull?_step scanner next token scanning stepped),
        ih rest_divides next _ (facts.phase.trans scanning) further.2 rest, token_eq]
      rfl

theorem tokens_placed (pieces : List Piece) (divides : Divides pieces) :
    tokens (printed pieces) = placed [] pieces ++ [Token.endOfInput] :=
  Scanner.items_placed pieces divides (Scanner.ofText (printed pieces)) [] rfl rfl rfl

end LexicalScan
