import LexicalScan.Proofs.Closing
import LexicalScan.Proofs.Division

/-!
Texts that are one token. The languages of the kinds overlap, so a text of a language is a token of the
kind only if no earlier kind has it: an operator does not begin like a comment, and a number does not
begin with a letter. Every token of a source is such a text by itself, although in the source the text
around it decided where it ends.
-/

namespace LexicalScan

namespace Recognition

open Alphabet Grammar

/-- The texts that are a token of a kind by themselves. -/
def Single : Kind → Text → Prop
  | .operator, text => Language .operator text ∧ ¬ ['/', '/'] <+: text
  | .number, text => Language .number text ∧ ∃ c ∈ text.head?, c.isDigit = true
  | .unknown, text =>
    ∃ c, text = [c] ∧
      (isQuote c = true ∨
        (isPunctuation c = false ∧ isBlank c = false ∧ isOperator c = false ∧
          isLetter c = false ∧ c.isDigit = false))
  | kind, text => Language kind text

theorem comment?_eq_none_iff (text : Text) : comment? text = none ↔ ¬ ['/', '/'] <+: text := by
  constructor
  · rintro none ⟨rest, rfl⟩
    cases none
  · intro plain
    cases found : comment? text with
    | none => rfl
    | some length =>
        obtain ⟨rest, rfl, _⟩ := (comment?_eq_some_iff text length).mp found
        exact absurd ⟨rest, rfl⟩ plain

theorem symbol?_number_iff (text : Text) (valid : Language .number text) :
    symbol? text = none ↔ ∃ c ∈ text.head?, c.isDigit = true := by
  obtain ⟨c, tail, rfl⟩ := List.exists_cons_of_ne_nil (language_ne_nil .number text valid)
  have begins : isHexDigit c = true := opens_of_language .number c tail valid
  rw [symbol?_eq_none_iff]
  constructor
  · intro noLetter
    refine ⟨c, rfl, ?_⟩
    rw [isHexDigit_eq, Bool.or_eq_true] at begins
    rcases begins with isDigit | isHex
    · exact isDigit
    · rw [hexLetter_letter c isHex] at noLetter
      cases noLetter
  · rintro ⟨first, same, isDigit⟩
    cases same
    apply Bool.eq_false_iff.mpr
    intro letter
    rw [letter_not_digit c letter] at isDigit
    cases isDigit

/-- A character opens no kind but a string exactly if it is outside five classes. A comment begins with
an operator, and a number with a digit or a letter. -/
theorem unopened_iff (c : Char) :
    (∀ kind, kind ≠ .string → opens kind c = false) ↔
      isPunctuation c = false ∧ isBlank c = false ∧ isOperator c = false ∧
        isLetter c = false ∧ c.isDigit = false := by
  constructor
  · intro closed
    have noHexDigit : isHexDigit c = false := closed .number (by decide)
    rw [isHexDigit_eq, Bool.or_eq_false_iff] at noHexDigit
    exact ⟨closed .punctuation (by decide), closed .blank (by decide),
      closed .operator (by decide), closed .symbol (by decide), noHexDigit.1⟩
  · rintro ⟨noPunctuation, noBlank, noOperator, noLetter, noDigit⟩ kind noString
    cases kind with
    | string => exact absurd rfl noString
    | punctuation => exact noPunctuation
    | blank => exact noBlank
    | operator => exact noOperator
    | symbol => exact noLetter
    | comment =>
        apply Bool.eq_false_iff.mpr
        intro begins
        have slash : c = '/' := by simpa [opens] using begins
        subst c
        contradiction
    | number =>
        have noHexLetter : isHexLetter c = false := by
          apply Bool.eq_false_iff.mpr
          intro isHex
          rw [hexLetter_letter c isHex] at noLetter
          cases noLetter
        rw [opens, isHexDigit_eq, noDigit, noHexLetter]
        rfl
    | unknown | endOfInput => rfl

theorem heads_alone_unknown_iff (text : Text) :
    Heads (.unknown, text) [] ↔ Single .unknown text := by
  rw [heads_unknown_iff]
  refine exists_congr fun c => and_congr_right fun _ => ?_
  rw [unopened_iff, and_iff_left fun _ => unclosed_nil c]
  constructor
  · exact Or.inr
  · rintro (quoted | outside)
    · exact (unopened_iff c).mp (opens_quote c quoted)
    · exact outside

theorem heads_alone_iff (kind : Kind) (text : Text) : Heads (kind, text) [] ↔ Single kind text := by
  by_cases unknown : kind = .unknown
  · subst unknown
    exact heads_alone_unknown_iff text
  · rw [heads_known_iff kind text [] unknown, and_iff_right (ends_nil kind text)]
    cases kind with
    | unknown => contradiction
    | operator =>
        refine and_congr_right fun _ => ?_
        rw [← comment?_eq_none_iff]
        simp
    | number =>
        refine and_congr_right fun valid => ?_
        rw [← symbol?_number_iff text valid]
        simp
    | comment | punctuation | blank | string | symbol | endOfInput => simp [Single]

end Recognition

open Recognition

theorem tokens_alone (kind : Kind) (text : Text) (alone : Heads (kind, text) []) :
    tokens text = [⟨kind, text, some ⟨1, 1⟩⟩, Token.endOfInput] := by
  have divides : Divides [(kind, text)] := (divides_cons _ []).mpr ⟨alone, divides_nil⟩
  have placedAlone := tokens_placed [(kind, text)] divides
  rwa [printed_cons, printed, List.flatMap_nil, List.append_nil] at placedAlone

theorem tokens_alone_iff (kind : Kind) (text : Text) :
    (∃ position?, tokens text = [⟨kind, text, position?⟩, Token.endOfInput]) ↔
      Heads (kind, text) [] := by
  constructor
  · rintro ⟨position?, all⟩
    apply (outline_alone_iff (kind, text)).mp
    rw [outline, all]
    rfl
  · intro alone
    exact ⟨_, tokens_alone kind text alone⟩

/-- A text is scanned as one token of a kind exactly if it is a single token of the kind. Every token
of a source but the end token is one, and scanning its value gives it again, at the start. -/
theorem tokens_single (source : Text) :
    (∀ kind text, (∃ position?, tokens text = [⟨kind, text, position?⟩, Token.endOfInput]) ↔
      Single kind text) ∧
    ∀ token ∈ tokens source, token.kind ≠ .endOfInput →
      Single token.kind token.value ∧
        tokens token.value = [{ token with position? := some ⟨1, 1⟩ }, Token.endOfInput] := by
  constructor
  · intro kind text
    rw [tokens_alone_iff, heads_alone_iff]
  · intro token member notEnd
    obtain ⟨earlier, later, split⟩ := List.append_of_mem member
    have piece : token.isEnd = false := by simpa [Token.isEnd] using notEnd
    obtain ⟨rest, _, heads⟩ := tokens_heads source earlier later token split piece
    have alone := ((heads_iff token.piece rest).mp heads).1
    exact ⟨(heads_alone_iff _ _).mp alone, tokens_alone token.kind token.value alone⟩

/-- Alone, the zero in front of a letter is the number that it is there. -/
theorem tokens_single_zero_in_front_of_letter :
    let source := " 0xg".toList
    let zero : Token := ⟨.number, ['0'], some ⟨1, 2⟩⟩
    zero ∈ tokens source ∧ Single .number ['0'] ∧
      tokens ['0'] = [⟨.number, ['0'], some ⟨1, 1⟩⟩, Token.endOfInput] := by
  intro source zero
  have member : zero ∈ tokens source := by decide +kernel
  exact ⟨member, (tokens_single source).2 zero member (by decide)⟩

end LexicalScan
