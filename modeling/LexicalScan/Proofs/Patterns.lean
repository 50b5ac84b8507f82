import LexicalScan.Pattern
import LexicalScan.Proofs.Numbers

/-!
The rules of the kinds take what the patterns of the table match. Only the first match in the order
of preference counts, so a repetition is followed to its first match, and an optional part counts
with its first match or as nothing. A string is the one pattern that fails behind a repetition: the
shorter repetitions to which matching goes back all end where no quote stands.
-/

namespace LexicalScan.Pattern

open Alphabet Recognition

theorem lengths_one_cons (isMember : Char → Bool) (c : Char) (rest : Text) :
    lengths (one isMember) (c :: rest) = if isMember c then [1] else [] := by
  rw [lengths]

theorem lengths_one_both (isMember : Char → Bool) (second : Pattern) (c : Char) (rest : Text) :
    lengths (both (one isMember) second) (c :: rest) =
      if isMember c then (lengths second rest).map (1 + ·) else [] := by
  rw [lengths, lengths_one_cons]
  cases isMember c <;> simp

theorem lengths_one_both_nil (isMember : Char → Bool) (second : Pattern) :
    lengths (both (one isMember) second) [] = [] := by
  rw [lengths, lengths]
  rfl

theorem lengths_many_stop (turn : Pattern) (text : Text) (stop : lengths turn text = []) :
    lengths (many turn) text = [0] := by
  rw [lengths, stop]
  rfl

theorem lengths_many_turn (turn : Pattern) (text : Text) (taken : Nat)
    (single : lengths turn text = [taken]) (positive : 0 < taken) (inside : taken ≤ text.length) :
    lengths (many turn) text = (lengths (many turn) (text.drop taken)).map (taken + ·) ++ [0] := by
  rw [lengths, single]
  simp [positive, inside]

theorem head?_lengths_many_one (isMember : Char → Bool) (text : Text) :
    (lengths (many (one isMember)) text).head? = some (runLength isMember text) := by
  induction text with
  | nil =>
      have stop : lengths (one isMember) [] = [] := by rw [lengths]
      rw [lengths_many_stop _ _ stop]
      rfl
  | cons c rest ih =>
      have unit := lengths_one_cons isMember c rest
      cases belongs : isMember c with
      | false =>
          rw [belongs] at unit
          rw [lengths_many_stop _ _ unit]
          simp [runLength, belongs]
      | true =>
          rw [belongs] at unit
          rw [lengths_many_turn _ _ 1 unit Nat.one_pos (by simp)]
          simp only [List.drop_succ_cons, List.drop_zero, List.head?_append, List.head?_map, ih]
          simp [runLength, belongs, Nat.add_comm]

/-- Where the second part matches anywhere, the first match of both is made of first matches. -/
theorem head?_lengths_both (first second : Pattern) (measure : Text → Nat)
    (always : ∀ text, (lengths second text).head? = some (measure text)) (text : Text) :
    (lengths (both first second) text).head? =
      (lengths first text).head?.map fun taken => taken + measure (text.drop taken) := by
  rw [lengths]
  cases lengths first text with
  | nil => rfl
  | cons taken others =>
      simp [List.flatMap_cons, List.head?_append, always]

theorem head?_lengths_optional (pattern : Pattern) (text : Text) :
    (lengths (optional pattern) text).head? = some ((lengths pattern text).head?.getD 0) := by
  rw [optional, lengths, lengths, List.head?_append]
  cases (lengths pattern text).head? <;> rfl

theorem head?_lengths_atLeastOne (isMember : Char → Bool) (text : Text) :
    (lengths (atLeastOne (one isMember)) text).head? = run? isMember text := by
  rw [atLeastOne, head?_lengths_both _ _ _ (head?_lengths_many_one isMember)]
  cases text with
  | nil =>
      rw [lengths]
      rfl
  | cons c rest =>
      rw [lengths_one_cons]
      cases belongs : isMember c <;> simp [run?, runLength, belongs, Nat.add_comm]

theorem head?_lengths_comment (text : Text) :
    (lengths (both (char '/') (both (char '/') (many (one fun c => !isLineBreak c)))) text).head? =
      comment? text := by
  match text with
  | [] =>
      rw [char, lengths_one_both_nil]
      rfl
  | [c] =>
      rw [char, lengths_one_both, lengths_one_both_nil]
      simp [comment?]
  | c :: d :: rest =>
      rw [char, lengths_one_both, lengths_one_both]
      by_cases firstSlash : c = '/'
      · by_cases secondSlash : d = '/'
        · subst c d
          simp only [beq_self_eq_true, if_true, List.head?_map, head?_lengths_many_one, comment?]
          simp only [Option.map_some, ← Nat.add_assoc]
        · simp [firstSlash, secondSlash, comment?]
      · simp [firstSlash, comment?]

theorem head?_lengths_symbol (text : Text) :
    (lengths (both (one isLetter) (many (one isSymbolPart))) text).head? = symbol? text := by
  cases text with
  | nil =>
      rw [lengths_one_both_nil]
      rfl
  | cons c rest =>
      rw [lengths_one_both, symbol?]
      cases isLetter c with
      | false => rfl
      | true =>
          simp only [if_true, List.head?_map, head?_lengths_many_one]
          rfl

/-! Numbers: both optional parts count only in front of a digit. -/

theorem head?_lengths_fraction (text : Text) :
    (lengths fraction text).head? = some (fractionLength text) := by
  rw [fraction, head?_lengths_optional, char]
  cases text with
  | nil =>
      rw [lengths_one_both_nil]
      rfl
  | cons c rest =>
      rw [lengths_one_both]
      by_cases point : c = '.'
      · subst c
        simp only [beq_self_eq_true, if_true, List.head?_map, digits, head?_lengths_atLeastOne,
          fractionLength, run?]
        cases runLength isHexDigit rest with
        | zero => rfl
        | succ more =>
            simp only [Option.map_some, Option.getD_some]
            congr 1
            omega
      · simp [point, fractionLength]

theorem head?_lengths_digits_fraction (text : Text) :
    (lengths (both digits fraction) text).head? =
      (run? isHexDigit text).map fun whole => whole + fractionLength (text.drop whole) := by
  rw [head?_lengths_both _ _ _ head?_lengths_fraction, digits, head?_lengths_atLeastOne]

theorem lengths_mark (letter : Char) (rest : Text) (isMark : isRadixMark letter = true) :
    lengths mark ('0' :: letter :: rest) = [2, 0] := by
  rw [mark, optional, lengths, lengths, char, lengths_one_both, lengths_one_cons, isMark]
  rfl

theorem lengths_no_mark (text : Text)
    (noMark : ∀ letter rest, text = '0' :: letter :: rest → isRadixMark letter = false) :
    lengths mark text = [0] := by
  rw [mark, optional, lengths, lengths, char]
  cases text with
  | nil =>
      rw [lengths_one_both_nil]
      rfl
  | cons c text =>
      cases text with
      | nil =>
          rw [lengths_one_both, lengths]
          simp
      | cons letter rest =>
          rw [lengths_one_both, lengths_one_cons]
          by_cases zero : c = '0'
          · subst c
            simp [noMark letter rest rfl]
          · simp [zero]

theorem number?_unmarked (text : Text) (unmarked : radixMarkLength text = 0) :
    number? text =
      (run? isHexDigit text).map fun whole => whole + fractionLength (text.drop whole) := by
  rw [number?_eq, wholeLength_unmarked text unmarked, run?]
  cases runLength isHexDigit text with
  | zero => rfl
  | succ more => rfl

theorem head?_lengths_number (text : Text) :
    (lengths (both mark (both digits fraction)) text).head? = number? text := by
  rw [lengths]
  -- A mark is tried wherever its two characters stand. If no digit stands behind them, matching
  -- gives it back and reads the zero as a digit.
  by_cases opens : ∃ letter rest, text = '0' :: letter :: rest ∧ isRadixMark letter = true
  · obtain ⟨letter, rest, rfl, isMark⟩ := opens
    rw [lengths_mark letter rest isMark]
    simp only [List.flatMap_cons, List.flatMap_nil, List.append_nil, List.head?_append,
      List.head?_map, head?_lengths_digits_fraction, List.drop_succ_cons, List.drop_zero]
    by_cases marks : Marks (letter :: rest)
    · have positive := runLength_marks_pos (letter :: rest) marks
      have whole := wholeLength_marked (letter :: rest) marks
      rw [List.drop_succ_cons, List.drop_zero] at positive whole
      rw [(run?_eq_some_iff isHexDigit rest _).mpr ⟨rfl, by omega⟩, number?_eq, whole,
        if_neg (by omega)]
      simp [Nat.add_comm 2, List.drop_succ_cons, Nat.add_assoc]
    · have stops : Stops isHexDigit rest := by
        cases rest with
        | nil => exact stops_nil isHexDigit
        | cons digit tail =>
            rw [stops_cons, ← Bool.not_eq_true]
            exact fun isDigit => marks ⟨letter, digit, tail, rfl, isMark, isDigit⟩
      have unmarked : radixMarkLength ('0' :: letter :: rest) = 0 := by
        apply radixMarkLength_eq_zero
        rintro _ split
        cases split
        exact marks
      rw [(run?_eq_none_iff isHexDigit rest).mpr stops, number?_unmarked _ unmarked]
      simp [Function.comp_def]
  · have unmarked : radixMarkLength text = 0 := by
      apply radixMarkLength_eq_zero
      rintro _ rfl ⟨letter, digit, tail, rfl, isMark, _⟩
      exact opens ⟨letter, digit :: tail, rfl, isMark⟩
    have noMark : ∀ letter rest, text = '0' :: letter :: rest → isRadixMark letter = false := by
      intro letter rest split
      rw [← Bool.not_eq_true]
      exact fun isMark => opens ⟨letter, rest, split, isMark⟩
    rw [lengths_no_mark text noMark, number?_unmarked text unmarked]
    simp [head?_lengths_digits_fraction]

/-! Strings: behind the last turn of the body stands the quote or nothing. -/

theorem lengths_bodyTurn_plain (quote c : Char) (rest : Text) (notQuote : c ≠ quote)
    (plain : c ≠ '\\') : lengths (bodyTurn quote) (c :: rest) = [1] := by
  rw [bodyTurn, lengths, lengths_one_cons, char, lengths_one_both]
  simp [notQuote, plain]

theorem lengths_bodyTurn_quote (quote : Char) (rest : Text) (different : quote ≠ '\\') :
    lengths (bodyTurn quote) (quote :: rest) = [] := by
  rw [bodyTurn, lengths, lengths_one_cons, char, lengths_one_both]
  simp [different]

theorem lengths_bodyTurn_pair (quote c : Char) (rest : Text) :
    lengths (bodyTurn quote) ('\\' :: c :: rest) = [2] := by
  rw [bodyTurn, lengths, lengths_one_cons, char, lengths_one_both, lengths_one_cons]
  simp

theorem lengths_bodyTurn_end (quote : Char) :
    lengths (bodyTurn quote) [] = [] ∧ lengths (bodyTurn quote) ['\\'] = [] := by
  constructor
  · rw [bodyTurn, lengths, lengths, char, lengths_one_both_nil]
    rfl
  · rw [bodyTurn, lengths, lengths_one_cons, char, lengths_one_both, lengths]
    simp

/-- Where a body stops without a quote, matching finds nothing to go back to. -/
theorem lengths_body_stop (quote : Char) (text : Text)
    (stop : lengths (bodyTurn quote) text = []) :
    lengths (body quote) text = lengths (char quote) text := by
  rw [body, lengths, lengths_many_stop _ _ stop]
  simp

theorem lengths_body_turn (quote : Char) (text : Text) (taken : Nat)
    (single : lengths (bodyTurn quote) text = [taken]) (positive : 0 < taken)
    (inside : taken ≤ text.length) (noQuote : lengths (char quote) text = []) :
    lengths (body quote) text = (lengths (body quote) (text.drop taken)).map (taken + ·) := by
  rw [body, lengths, lengths, lengths_many_turn _ _ taken single positive inside]
  simp [List.flatMap_append, List.flatMap_map, List.map_flatMap, noQuote, List.drop_drop,
    Function.comp_def, Nat.add_assoc]

theorem lengths_body (quote : Char) (different : quote ≠ '\\') (text : Text) (before : Nat) :
    (lengths (body quote) text).map (before + ·) = (closing? quote text before).toList := by
  -- Both sides read one turn of the body at a time, and no turn can be read in two ways.
  fun_induction closing? quote text before with
  | case1 before =>
      rw [lengths_body_stop quote [] (lengths_bodyTurn_end quote).1, char, lengths]
      rfl
  | case2 before =>
      rw [lengths_body_stop quote _ (lengths_bodyTurn_end quote).2, char, lengths_one_cons]
      simp [Ne.symm different]
  | case3 c rest before ih =>
      have noQuote : lengths (char quote) ('\\' :: c :: rest) = [] := by
        rw [char, lengths_one_cons]
        simp [Ne.symm different]
      rw [lengths_body_turn quote _ 2 (lengths_bodyTurn_pair quote c rest) Nat.two_pos (by simp)
        noQuote, ← ih]
      simp [Function.comp_def, Nat.add_assoc]
  | case4 rest before =>
      rw [lengths_body_stop quote _ (lengths_bodyTurn_quote quote rest different), char,
        lengths_one_cons]
      simp
  | case5 c rest before notLast notPair notQuote ih =>
      have plain : c ≠ '\\' := by
        rintro rfl
        cases rest with
        | nil => exact notLast rfl rfl
        | cons next tail => exact notPair next tail rfl rfl
      have noQuote : lengths (char quote) (c :: rest) = [] := by
        rw [char, lengths_one_cons]
        simp [notQuote]
      rw [lengths_body_turn quote _ 1 (lengths_bodyTurn_plain quote c rest notQuote plain)
        Nat.one_pos (by simp) noQuote, ← ih]
      simp [Function.comp_def, Nat.add_assoc]

theorem lengths_quotedBy (quote c : Char) (rest : Text) (different : quote ≠ '\\') :
    lengths (quotedBy quote) (c :: rest) =
      if c = quote then (closing? quote rest 1).toList else [] := by
  rw [quotedBy, char, lengths_one_both]
  by_cases same : c = quote
  · subst c
    rw [if_pos rfl, ← lengths_body quote different rest 1, beq_self_eq_true, if_pos rfl]
  · simp [same]

theorem head?_lengths_string (text : Text) :
    (lengths (either (quotedBy '"') (quotedBy '\'')) text).head? = string? text := by
  rw [lengths]
  cases text with
  | nil =>
      rw [quotedBy, char, lengths_one_both_nil, quotedBy, char, lengths_one_both_nil]
      rfl
  | cons c rest =>
      rw [lengths_quotedBy _ _ _ (by decide), lengths_quotedBy _ _ _ (by decide), string?]
      by_cases double : c = '"'
      · subst c
        simp [isQuote]
      · by_cases single : c = '\''
        · subst c
          simp [isQuote]
        · simp [isQuote, double, single]

/-! The table -/

theorem length?_of_head? (kind : Kind) (pattern : Pattern) (text : Text)
    (same : (lengths pattern text).head? = Recognition.length? kind text) :
    length? pattern text = Recognition.length? kind text := by
  rw [length?, same]
  cases found : Recognition.length? kind text with
  | none => rfl
  | some length => simp [length?_pos found]

theorem table_kinds : table.map Prod.fst = precedence := rfl

theorem length?_table (text : Text) : ∀ entry ∈ table,
    length? entry.2 text = Recognition.length? entry.1 text := by
  intro entry member
  apply length?_of_head?
  simp only [table, List.mem_cons, List.not_mem_nil, or_false] at member
  rcases member with rfl | rfl | rfl | rfl | rfl | rfl | rfl
  · exact head?_lengths_comment text
  · cases text with
    | nil =>
        rw [lengths]
        rfl
    | cons c rest =>
        rw [lengths_one_cons]
        cases belongs : isPunctuation c <;>
          simp [Recognition.length?, punctuation?, belongs]
  · exact head?_lengths_atLeastOne isBlank text
  · exact head?_lengths_atLeastOne isOperator text
  · exact head?_lengths_string text
  · exact head?_lengths_symbol text
  · exact head?_lengths_number text

theorem findSome?_entries (text : Text) (entries : List (Kind × Pattern))
    (same : ∀ entry ∈ entries, length? entry.2 text = Recognition.length? entry.1 text) :
    (entries.findSome? fun entry => (length? entry.2 text).map (entry.1, ·)) =
      (entries.map Prod.fst).findSome? fun kind =>
        (Recognition.length? kind text).map (kind, ·) := by
  induction entries with
  | nil => rfl
  | cons entry others ih =>
      have sameOthers := ih fun other member => same other (List.mem_cons_of_mem entry member)
      rw [List.map_cons, List.findSome?_cons, List.findSome?_cons, same entry List.mem_cons_self,
        sameOthers]

/-- The rules of the kinds take what the patterns of the table match. -/
theorem firstMatch_table (text : Text) : firstMatch table text = classify text := by
  rw [firstMatch, findSome?_entries text table (length?_table text), table_kinds]
  rfl

end LexicalScan.Pattern
