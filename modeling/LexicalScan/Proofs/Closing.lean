import LexicalScan.Proofs.Coverage

/-!
Quotes that open a string and quotes that are left open. A string that is opened goes on to the first
quote of its sort in front of which the backslashes pair up, and a quote that has no such quote behind
it is unknown. Backslashes in front of a quote are counted back no further than to the opening quote,
so a quote that is left open stays open however the text behind it is cut: no string of its sort comes
after it.
-/

namespace LexicalScan

namespace Recognition

open Alphabet Grammar

/-- Whether the quote at an index of a text closes the string that the same quote opens at the front:
the backslashes that stand together in front of it pair up. -/
structure Closes (quote : Char) (text : Text) (index : Nat) : Prop where
  behind : 0 < index
  isQuote : text[index]? = some quote
  paired : Paired (text.take index)

inductive Extent (quote : Char) (text : Text) : Kind → Text → Prop where
  | closed {index : Nat} :
      Closes quote text index → (∀ other, Closes quote text other → index ≤ other) →
      Pattern.lengths (Pattern.quotedBy quote) text = [index + 1] →
      Extent quote text .string (text.take (index + 1))
  | leftOpen :
      (∀ index, ¬ Closes quote text index) →
      Pattern.lengths (Pattern.quotedBy quote) text = [] →
      Extent quote text .unknown [quote]

theorem closes_cons_iff (quote : Char) (different : quote ≠ '\\') (tail : Text) (index : Nat) :
    Closes quote (quote :: tail) index ↔
      ∃ before after, tail = before ++ quote :: after ∧ Paired before ∧
        index = before.length + 1 := by
  constructor
  · rintro ⟨behind, isQuote, paired⟩
    obtain ⟨place, rfl⟩ := Nat.exists_eq_add_one.mpr behind
    rw [List.getElem?_cons_succ] at isQuote
    obtain ⟨inside, found⟩ := List.getElem?_eq_some_iff.mp isQuote
    rw [List.take_succ_cons] at paired
    refine ⟨tail.take place, tail.drop (place + 1), ?_, ?_, ?_⟩
    · rw [← found, List.getElem_cons_drop, List.take_append_drop]
    · exact (paired_behind [] (tail.take place) quote different).mp paired
    · rw [List.length_take_of_le (Nat.le_of_lt inside)]
  · rintro ⟨before, after, rfl, paired, rfl⟩
    refine ⟨Nat.succ_pos _, ?_, ?_⟩
    · simp
    · rw [List.take_succ_cons, List.take_left]
      exact (paired_behind [] before quote different).mpr paired

theorem closing?_first (quote : Char) (different : quote ≠ '\\') (tail : Text) (length : Nat)
    (closed : closing? quote tail 1 = some length) :
    ∃ index, length = index + 1 ∧ Closes quote (quote :: tail) index ∧
      ∀ other, Closes quote (quote :: tail) other → index ≤ other := by
  obtain ⟨body, after, rfl, valid, rfl⟩ := body_of_closing? quote tail 1 length closed
  refine ⟨body.length + 1, by omega, ?_, ?_⟩
  · rw [closes_cons_iff quote different]
    exact ⟨body, after, rfl, paired_body quote body [] valid paired_nil, rfl⟩
  · intro other closes
    obtain ⟨before, behind, split, paired, rfl⟩ := (closes_cons_iff quote different _ other).mp closes
    -- Up to the other quote a body is found as well, and only one body can be read.
    obtain ⟨inside, rest, same, validInside, short⟩ :=
      body_of_paired quote behind before [] paired_nil paired
    rw [split, same, closing?_body quote different inside rest 1 validInside] at closed
    have equalLength := Option.some.inj closed
    omega

theorem closing?_none_closes (quote : Char) (different : quote ≠ '\\') (tail : Text)
    (unclosed : closing? quote tail 1 = none) (index : Nat) :
    ¬ Closes quote (quote :: tail) index := by
  intro closes
  obtain ⟨before, after, split, paired, _⟩ := (closes_cons_iff quote different tail index).mp closes
  exact (closing?_eq_none_iff quote different tail 1).mp unclosed before after split paired

theorem opens_quote (quote : Char) (opened : isQuote quote = true) (kind : Kind)
    (noString : kind ≠ .string) : opens kind quote = false := by
  apply Bool.eq_false_iff.mpr
  intro begins
  have family_eq := opening_of_opens kind quote begins
  rw [opening_of_opens .string quote opened] at family_eq
  revert family_eq noString
  cases kind <;> decide

theorem string?_quote (quote : Char) (opened : isQuote quote = true) (tail : Text) :
    string? (quote :: tail) = closing? quote tail 1 := if_pos opened

theorem classify_closed (quote : Char) (opened : isQuote quote = true) (tail : Text)
    (length : Nat) (closed : closing? quote tail 1 = some length) :
    classify (quote :: tail) = (.string, length) := by
  refine (classify_eq_iff .string _ length (by decide)).mpr ⟨?_, by simp, by simp⟩
  exact (string?_quote quote opened tail).trans closed

theorem classify_unclosed (quote : Char) (opened : isQuote quote = true) (tail : Text)
    (unclosed : closing? quote tail 1 = none) : classify (quote :: tail) = (.unknown, 1) := by
  refine (classify_unknown_iff _ 1).mpr ⟨rfl, (unmatched_iff quote tail).mpr ⟨?_, ?_⟩⟩
  · exact opens_quote quote opened
  · rwa [← string?_eq_none_iff, string?_quote quote opened]

/-- A quote whose string is left open leaves open every string of its sort behind it. -/
theorem unclosed_behind (quote : Char) (different : quote ≠ '\\') (front rest : Text)
    (unclosed : Unclosed quote (front ++ quote :: rest)) : Unclosed quote rest := by
  rintro before after rfl paired
  apply unclosed (front ++ quote :: before) after (by simp)
  rwa [paired_behind front before quote different]

/-- Behind a quote that is left open, a piece that begins with the same quote is that quote alone. -/
theorem piece_left_open (quote : Char) (opened : isQuote quote = true) (kind : Kind)
    (front tail rest : Text) (unclosed : Unclosed quote (front ++ quote :: (tail ++ rest)))
    (heads : Heads (kind, quote :: tail) rest) : kind = .unknown ∧ tail = [] := by
  have different := quote_ne_backslash opened
  have stillOpen := unclosed_behind quote different front (tail ++ rest) unclosed
  have unmatched : closing? quote (tail ++ rest) 1 = none :=
    (closing?_eq_none_iff quote different _ 1).mpr stillOpen
  rw [Heads, List.cons_append, classify_unclosed quote opened _ unmatched] at heads
  obtain ⟨unknown, single⟩ := Prod.mk.inj heads
  refine ⟨unknown.symm, ?_⟩
  rw [List.length_cons] at single
  exact List.length_eq_zero_iff.mp (by omega)

end Recognition

namespace Scanner

open Recognition Alphabet

/-- A step over a text that begins with a quote takes the text up to the first quote that closes it,
or the quote alone where none does, as leftmost-first matching of the table does. -/
theorem step?_up_to_closer (scanner : Scanner) (quote : Char) (tail : Text)
    (opened : isQuote quote = true) (atFront : scanner.rest = quote :: tail) :
    ∃ token next, scanner.step? = some (token, next) ∧
      Pattern.firstMatch Pattern.table scanner.rest = (token.kind, token.value.length) ∧
      Extent quote scanner.rest token.kind token.value := by
  have different := quote_ne_backslash opened
  have remains : scanner.rest ≠ [] := by simp [atFront]
  obtain ⟨token, next, stepped, _⟩ := step?_shortens scanner remains
  have facts := step?_stepped scanner next token stepped
  have classified := facts.classified
  have value : token.value = scanner.rest.take token.value.length := by
    rw [facts.rest, List.take_left]
  refine ⟨token, next, stepped, (Pattern.firstMatch_table _).trans classified, ?_⟩
  have lengths := Pattern.lengths_quotedBy quote quote tail different
  rw [if_pos rfl] at lengths
  rw [atFront] at classified value ⊢
  cases closed : closing? quote tail 1 with
  | some length =>
      rw [classify_closed quote opened tail length closed] at classified
      obtain ⟨kind, measured⟩ := Prod.mk.inj classified
      obtain ⟨index, rfl, closes, first⟩ := closing?_first quote different tail length closed
      rw [value, ← kind, ← measured]
      rw [closed] at lengths
      exact .closed closes first lengths
  | none =>
      rw [classify_unclosed quote opened tail closed] at classified
      obtain ⟨kind, measured⟩ := Prod.mk.inj classified
      rw [value, ← kind, ← measured]
      rw [closed] at lengths
      exact .leftOpen (closing?_none_closes quote different tail closed) lengths

theorem step?_up_to_closer_escaped :
    let tail := "\\'\"\n\\\\'x'".toList
    let scanner := ofText ('\'' :: tail)
    isQuote '\'' = true ∧ scanner.rest = '\'' :: tail ∧
      ∃ token next, scanner.step? = some (token, next) ∧
        Pattern.firstMatch Pattern.table scanner.rest = (token.kind, token.value.length) ∧
        Extent '\'' scanner.rest token.kind token.value := by
  intro tail scanner
  exact ⟨rfl, rfl, step?_up_to_closer scanner '\'' tail rfl rfl⟩

end Scanner

open Recognition Alphabet

/-- Once a quote is left open, all quotes of its sort are: every later token that begins with the same
quote is again that quote alone, and none is a string. -/
theorem tokens_left_open (source : Text) (earlier later : List Token) (unknown : Token)
    (quote : Char) (split : tokens source = earlier ++ unknown :: later)
    (isUnknown : unknown.kind = .unknown) (value : unknown.value = [quote])
    (opened : isQuote quote = true) :
    ∀ token ∈ later, token.value.head? = some quote →
      token.kind = .unknown ∧ token.value = [quote] := by
  intro token member first
  obtain ⟨tail, begins⟩ := List.head?_eq_some_iff.mp first
  have notEnd : token.isEnd = false := by
    apply Bool.eq_false_iff.mpr
    intro isEnd
    have inSource : token ∈ tokens source := by
      rw [split]
      exact List.mem_append_right earlier (List.mem_cons_of_mem unknown member)
    cases eq_endOfInput source token inSource isEnd
    cases begins
    cases opened
  have unknownNotEnd : unknown.isEnd = false := by simp [Token.isEnd, isUnknown]
  obtain ⟨between, behind, rfl⟩ := List.append_of_mem member
  obtain ⟨rest, headsUnknown, heads⟩ :=
    tokens_heads_later source earlier between behind unknown token split unknownNotEnd notEnd
  rw [Token.piece, isUnknown, value, begins, List.cons_append] at headsUnknown
  rw [Token.piece, begins] at heads
  obtain ⟨c, same, _, unclosed⟩ := (heads_unknown_iff [quote] _).mp headsUnknown
  cases same
  obtain ⟨kind, rfl⟩ :=
    piece_left_open quote opened token.kind _ tail rest (unclosed opened) heads
  exact ⟨kind, begins⟩

theorem tokens_left_open_beside_string :
    let unknown (col : Nat) : Token := ⟨.unknown, ['\''], some ⟨1, col⟩⟩
    let later : List Token := [⟨.symbol, ['a'], some ⟨1, 2⟩⟩, ⟨.string, "\"\\'\"".toList, some ⟨1, 3⟩⟩,
      ⟨.operator, ['\\'], some ⟨1, 7⟩⟩, unknown 8, Token.endOfInput]
    tokens "'a\"\\'\"\\'".toList = [] ++ unknown 1 :: later ∧
      (unknown 1).kind = .unknown ∧ (unknown 1).value = ['\''] ∧ isQuote '\'' = true ∧
      unknown 8 ∈ later ∧ (unknown 8).value.head? = some '\'' ∧
      ∀ token ∈ later, token.value.head? = some '\'' →
        token.kind = .unknown ∧ token.value = ['\''] := by
  intro unknown later
  have split : tokens "'a\"\\'\"\\'".toList = [] ++ unknown 1 :: later := by decide +kernel
  exact ⟨split, rfl, rfl, rfl, by decide, rfl,
    tokens_left_open _ [] later (unknown 1) '\'' split rfl rfl rfl⟩

end LexicalScan
