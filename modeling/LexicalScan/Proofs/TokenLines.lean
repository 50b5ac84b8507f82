import LexicalScan.Proofs.Coverage
import LexicalScan.Proofs.LineLookup

/-!
Tokens on the lines of their rows. The line of a token's row shows the token from its column on: all of
it, or the part up to its first newline. What the lookup cuts off at the end of a line is no part of a
token, since only a blank can end in a carriage return.
-/

namespace LexicalScan

namespace Recognition

open Alphabet

theorem first_not_blank (kind : Kind) (c : Char) (tail rest : Text)
    (heads : Heads (kind, c :: tail) rest) (notBlank : kind ≠ .blank) : isBlank c = false := by
  have alone := ((heads_iff _ rest).mp heads).1
  apply Bool.eq_false_iff.mpr
  intro begins
  exact notBlank ((isBlank_iff kind c tail alone).mp begins)

theorem last_not_return (kind : Kind) (value rest : Text) (heads : Heads (kind, value) rest)
    (notBlank : kind ≠ .blank) : value.getLast? ≠ some '\r' := by
  by_cases unknown : kind = .unknown
  · subst kind
    obtain ⟨c, rfl, closed, _⟩ := (heads_unknown_iff value rest).mp heads
    have plain : isBlank c = false := closed .blank (by decide)
    rintro same
    cases same
    contradiction
  · have valid := ((heads_known_iff kind value rest unknown).mp heads).1
    by_cases string : kind = .string
    · subst kind
      obtain ⟨quote, body, isQuote, _, rfl⟩ := valid
      rw [← List.cons_append, List.getLast?_concat]
      rintro same
      cases same
      contradiction
    · have onLine : kind.maySpanLines = false := by
        cases kind with
        | string | blank => contradiction
        | _ => rfl
      intro ends
      exact lineBreak_notMem kind value valid onLine '\r' rfl (List.mem_of_getLast? ends)

end Recognition

/-- The line of a place, from there on, where a piece other than a blank begins. -/
theorem line?_from_piece (before value rest : Text) (kind : Kind)
    (heads : Recognition.Heads (kind, value) rest) (notBlank : kind ≠ .blank) :
    ∃ line, Lines.line? (before ++ value ++ rest) (Position.behind before).row = some line ∧
      line.drop (Text.lastLine before).length =
        Lines.withoutReturn ((value ++ rest).takeWhile (· != '\n')) := by
  obtain ⟨c, tail, rfl⟩ := Recognition.heads_cons kind value rest heads
  have plain := Recognition.first_not_blank kind c tail rest heads notBlank
  have noNewline : c ≠ '\n' := by
    rintro rfl
    contradiction
  have noReturn : c ≠ '\r' := by
    rintro rfl
    contradiction
  have onLine : (c :: tail ++ rest).takeWhile (· != '\n') =
      c :: (tail ++ rest).takeWhile (· != '\n') :=
    List.takeWhile_cons_of_pos (bne_iff_ne.mpr noNewline)
  have kept := Lines.withoutReturn_append_cons [] ((tail ++ rest).takeWhile (· != '\n')) c noReturn
  rw [List.append_assoc, Lines.line?_behind, onLine]
  refine ⟨_, rfl, ?_⟩
  rw [Lines.withoutReturn_append_cons _ _ c noReturn, List.drop_left]
  exact kept.symm

/-- The line of every token other than a blank shows the token from its column on, up to the first
newline in it and without a carriage return in front of that. And wherever a scanner stands, its row
has a line. -/
theorem tokens_on_lines (source : Text) :
    (∀ token ∈ tokens source, token.kind ≠ .endOfInput → token.kind ≠ .blank →
      ∃ row column line, token.position? = some ⟨row, column + 1⟩ ∧
        Lines.line? source row = some line ∧
        ('\n' ∉ token.value → token.value <+: line.drop column) ∧
        ('\n' ∈ token.value →
          let first := token.value.takeWhile (· != '\n')
          line.drop column = if first.getLast? = some '\r' then first.dropLast else first)) ∧
      ∀ calls, ∃ line,
        Lines.line? source ((Scanner.ofText source).perform calls).2.cursor.row = some line := by
  constructor
  · intro token member notEnd notBlank
    obtain ⟨earlier, later, split⟩ := List.append_of_mem member
    have piece : token.isEnd = false := by simpa [Token.isEnd] using notEnd
    obtain ⟨rest, cut, heads⟩ := tokens_heads source earlier later token split piece
    have located := Scanner.items_located source (Scanner.ofText source) []
      (Scanner.tracks_ofText source) earlier token later split
    have place := located.place
    rw [piece, List.nil_append, Lines.behind_eq] at place
    obtain ⟨line, found, shown⟩ :=
      line?_from_piece (earlier.flatMap Token.value) token.value rest token.kind heads notBlank
    rw [← cut, Lines.behind_eq] at found
    refine ⟨_, _, line, place, found, ?_, ?_⟩
    · intro noNewline
      rw [shown, Text.takeWhile_unmarked token.value rest noNewline]
      exact Lines.prefix_withoutReturn _ _
        (Recognition.last_not_return token.kind token.value rest heads notBlank)
    · intro newline
      rw [shown, Text.takeWhile_marked token.value rest newline]
      rfl
  · intro calls
    obtain ⟨consumed, split, cursor⟩ := Scanner.perform_tracks source calls
    rw [cursor, split]
    exact ⟨_, Lines.line?_behind consumed _⟩

theorem tokens_on_lines_string :
    let source := "é\t'p\r\n\rq' ~\r\n".toList
    let token : Token := ⟨.string, "'p\r\n\rq'".toList, some ⟨1, 3⟩⟩
    token ∈ tokens source ∧ token.kind ≠ .endOfInput ∧ token.kind ≠ .blank ∧
      (∃ row column line, token.position? = some ⟨row, column + 1⟩ ∧
        Lines.line? source row = some line ∧
        ('\n' ∉ token.value → token.value <+: line.drop column) ∧
        ('\n' ∈ token.value →
          let first := token.value.takeWhile (· != '\n')
          line.drop column = if first.getLast? = some '\r' then first.dropLast else first)) ∧
      Lines.line? source 1 = some "é\t'p".toList := by
  intro source token
  have member : token ∈ tokens source := by decide +kernel
  have notEnd : token.kind ≠ .endOfInput := by decide
  have notBlank : token.kind ≠ .blank := by decide
  exact ⟨member, notEnd, notBlank, (tokens_on_lines source).1 token member notEnd notBlank,
    by decide⟩

end LexicalScan
