import LexicalScan.Proofs.Policy

/-!
What the first character of a text says of the piece there. The classes of characters that open the
kinds overlap in two places only: a slash may open a comment or an operator, and a hexadecimal letter a
symbol or a number. So the order of the kinds is needed for these two pairs alone.
-/

namespace LexicalScan.Recognition

open Alphabet Grammar

def opens : Kind → Char → Bool
  | .comment, c => c == '/'
  | .punctuation, c => isPunctuation c
  | .blank, c => isBlank c
  | .operator, c => isOperator c
  | .string, c => isQuote c
  | .symbol, c => isLetter c
  | .number, c => isHexDigit c
  | .unknown, _ | .endOfInput, _ => false

/-- The kinds that can begin with the same character go by one name. -/
def family : Kind → Kind
  | .comment => .operator
  | .number => .symbol
  | kind => kind

def opening (c : Char) : Kind :=
  if isPunctuation c then .punctuation
  else if isBlank c then .blank
  else if isOperator c then .operator
  else if isQuote c then .string
  else if c.isAlphanum then .symbol
  else .unknown

def isHexLetter (c : Char) : Bool := ('a' ≤ c && c ≤ 'f') || ('A' ≤ c && c ≤ 'F')

theorem isHexDigit_eq (c : Char) : isHexDigit c = (c.isDigit || isHexLetter c) := Bool.or_assoc ..

theorem hexLetter_code (c : Char) :
    isHexLetter c = true ↔
      (97 ≤ c.val.toNat ∧ c.val.toNat ≤ 102) ∨ 65 ≤ c.val.toNat ∧ c.val.toNat ≤ 70 := by
  rw [isHexLetter, Bool.or_eq_true, Bool.and_eq_true, Bool.and_eq_true, decide_eq_true_eq,
    decide_eq_true_eq, decide_eq_true_eq, decide_eq_true_eq]
  exact Iff.rfl

theorem letter_code (c : Char) :
    isLetter c = true ↔
      (65 ≤ c.val.toNat ∧ c.val.toNat ≤ 90) ∨ 97 ≤ c.val.toNat ∧ c.val.toNat ≤ 122 := by
  have ranges : isLetter c = (decide ('A'.val ≤ c.val ∧ c.val ≤ 'Z'.val) ||
      (decide ('a'.val ≤ c.val) && decide (c.val ≤ 'z'.val))) := rfl
  rw [ranges, Bool.or_eq_true, Bool.and_eq_true, decide_eq_true_eq, decide_eq_true_eq,
    decide_eq_true_eq]
  exact Iff.rfl

theorem digit_code (c : Char) :
    c.isDigit = true ↔ 48 ≤ c.val.toNat ∧ c.val.toNat ≤ 57 := by
  have range : c.isDigit = (decide ('0'.val ≤ c.val) && decide (c.val ≤ '9'.val)) := rfl
  rw [range, Bool.and_eq_true, decide_eq_true_eq, decide_eq_true_eq]
  exact Iff.rfl

theorem hexLetter_letter (c : Char) (isHex : isHexLetter c = true) : isLetter c = true := by
  rw [hexLetter_code] at isHex
  rw [letter_code]
  omega

theorem hexDigit_alphanum (c : Char) (isDigit : isHexDigit c = true) : c.isAlphanum = true := by
  rw [isHexDigit_eq, Bool.or_eq_true] at isDigit
  rw [Char.isAlphanum, Bool.or_eq_true]
  rcases isDigit with isDigit | isHex
  · exact Or.inr isDigit
  · exact Or.inl (hexLetter_letter c isHex)

theorem letter_not_digit (c : Char) (letter : isLetter c = true) : c.isDigit = false := by
  apply Bool.eq_false_iff.mpr
  intro isDigit
  rw [letter_code] at letter
  rw [digit_code] at isDigit
  omega

theorem holds_of_contains (marks : List Char) (holds : Char → Bool)
    (each : marks.all holds = true) (c : Char) (member : marks.contains c = true) :
    holds c = true :=
  List.all_eq_true.mp each c (List.contains_iff_mem.mp member)

theorem radixMark_letter (mark : Char) (isMark : isRadixMark mark = true) :
    isLetter mark = true :=
  holds_of_contains radixMarks isLetter (by decide) mark isMark

/-- Half of the letters for a base are digits themselves. -/
theorem radixMark_cases (mark : Char) (isMark : isRadixMark mark = true) :
    isHexLetter mark = true ∨ mark = 'x' ∨ mark = 'o' := by
  have found := holds_of_contains radixMarks (fun c => isHexLetter c || c == 'x' || c == 'o')
    (by decide) mark isMark
  simpa [or_assoc] using found

theorem opening_alphanum (c : Char) (alphanum : c.isAlphanum = true) : opening c = .symbol := by
  have outside : ∀ marks : List Char, marks.all (fun mark => !mark.isAlphanum) = true →
      marks.contains c = false := by
    intro marks plain
    apply Bool.eq_false_iff.mpr
    intro member
    have differs := holds_of_contains marks _ plain c member
    rw [alphanum] at differs
    contradiction
  have notQuote : isQuote c = false := by
    have noQuote := outside ['"', '\''] (by decide)
    simpa [isQuote] using noQuote
  simp only [opening, isPunctuation, isBlank, isOperator, outside punctuation (by decide),
    outside blanks (by decide), outside operators (by decide), notQuote, alphanum,
    Bool.false_eq_true, if_false, if_true]

theorem opening_of_opens (kind : Kind) (c : Char) (begins : opens kind c = true) :
    opening c = family kind := by
  have ofMember : ∀ marks : List Char, ∀ found : Kind,
      marks.all (fun mark => opening mark = found) = true → marks.contains c = true →
        opening c = found := by
    intro marks found all member
    simpa using holds_of_contains marks _ all c member
  cases kind with
  | punctuation => exact ofMember punctuation _ (by decide) begins
  | blank => exact ofMember blanks _ (by decide) begins
  | operator => exact ofMember operators _ (by decide) begins
  | comment => exact ofMember ['/'] _ (by decide) (by simpa [opens] using begins)
  | string =>
      apply ofMember ['"', '\''] _ (by decide)
      simpa [opens, isQuote] using begins
  | symbol =>
      apply opening_alphanum
      simp only [opens, isLetter] at begins
      rw [Char.isAlphanum, begins, Bool.true_or]
  | number => exact opening_alphanum c (hexDigit_alphanum c begins)
  | unknown | endOfInput => cases begins

theorem opens_of_language (kind : Kind) (c : Char) (tail : Text)
    (valid : Language kind (c :: tail)) : opens kind c = true := by
  cases kind with
  | comment =>
      obtain ⟨body, _, split⟩ := valid
      cases split
      rfl
  | punctuation =>
      obtain ⟨d, belongs, split⟩ := valid
      cases split
      exact belongs
  | blank | operator => exact valid.2 c List.mem_cons_self
  | string =>
      obtain ⟨quote, body, isQuote, _, split⟩ := valid
      cases split
      exact isQuote
  | symbol =>
      obtain ⟨first, rest, letter, _, split⟩ := valid
      cases split
      exact letter
  | number =>
      obtain ⟨mark, digits, fraction, marked, ⟨nonempty, inside⟩, _, split⟩ := valid
      rcases marked with rfl | ⟨letter, _, rfl⟩
      · obtain ⟨digit, digits, rfl⟩ := List.exists_cons_of_ne_nil nonempty
        cases split
        exact inside c List.mem_cons_self
      · cases split
        rfl
  | unknown | endOfInput => exact valid.elim

/-- The characters that a piece of a kind can hold. -/
def mayHold : Kind → Char → Bool
  | .comment, c => !isLineBreak c
  | .punctuation, c => isPunctuation c
  | .blank, c => isBlank c
  | .operator, c => isOperator c
  | .string, _ => true
  | .symbol, c => isSymbolPart c
  | .number, c => isHexDigit c || isRadixMark c || c == '.'
  | .unknown, _ | .endOfInput, _ => false

theorem mayHold_of_language (kind : Kind) (value : Text) (valid : Language kind value) :
    ∀ c ∈ value, mayHold kind c = true := by
  intro c member
  cases kind with
  | string => rfl
  | blank | operator => exact valid.2 c member
  | unknown | endOfInput => exact valid.elim
  | punctuation =>
      obtain ⟨d, belongs, rfl⟩ := valid
      rwa [List.mem_singleton.mp member]
  | comment =>
      obtain ⟨body, inside, rfl⟩ := valid
      rw [mayHold, Bool.not_eq_true']
      rcases List.mem_cons.mp member with rfl | member
      · rfl
      rcases List.mem_cons.mp member with rfl | member
      · rfl
      · exact inside c member
  | symbol =>
      obtain ⟨first, rest, letter, inside, rfl⟩ := valid
      rcases List.mem_cons.mp member with rfl | member
      · simp only [isLetter] at letter
        rw [mayHold, isSymbolPart, Char.isAlphanum, letter, Bool.true_or, Bool.true_or]
      · exact inside c member
  | number =>
      obtain ⟨mark, digits, fraction, marked, run, behind, rfl⟩ := valid
      have ofDigits : ∀ digits, Run isHexDigit digits → c ∈ digits → mayHold .number c = true := by
        intro digits run member
        rw [mayHold, run.2 c member, Bool.true_or, Bool.true_or]
      rw [List.mem_append, List.mem_append] at member
      rcases member with (inMark | inDigits) | inFraction
      · rcases marked with rfl | ⟨letter, isMark, rfl⟩
        · cases inMark
        · rcases List.mem_cons.mp inMark with rfl | inMark
          · rfl
          · rw [mayHold, List.mem_singleton.mp inMark, isMark, Bool.or_true, Bool.true_or]
      · exact ofDigits digits run inDigits
      · rcases behind with rfl | ⟨decimals, run, rfl⟩
        · cases inFraction
        · rcases List.mem_cons.mp inFraction with rfl | inFraction
          · rfl
          · exact ofDigits decimals run inFraction

theorem opens_of_length? (kind : Kind) (c : Char) (rest : Text) (length : Nat)
    (found : length? kind (c :: rest) = some length) : opens kind c = true := by
  obtain ⟨piece, behind, split, rfl⟩ := split_of_length? kind (c :: rest) length found
  cases piece with
  | nil => exact absurd (length?_pos found) (Nat.lt_irrefl 0)
  | cons first tail =>
      rw [split] at found
      cases split
      exact opens_of_language kind c tail ((length?_append_iff kind _ behind).mp found).1

theorem length?_unopened (kind : Kind) (c : Char) (rest : Text) (closed : opens kind c = false) :
    length? kind (c :: rest) = none := by
  cases found : length? kind (c :: rest) with
  | none => rfl
  | some length =>
      rw [opens_of_length? kind c rest length found] at closed
      cases closed

/-- For most kinds one character that opens the kind is a piece of it. -/
theorem length?_opened (kind : Kind) (c : Char) (rest : Text) (begins : opens kind c = true)
    (noComment : kind ≠ .comment) (noString : kind ≠ .string) :
    length? kind (c :: rest) ≠ none := by
  have single : Language kind [c] := by
    have inRun : ∀ isMember : Char → Bool, isMember c = true → Run isMember [c] := by
      intro isMember belongs
      refine ⟨List.cons_ne_nil c [], ?_⟩
      intro d member
      rwa [List.mem_singleton.mp member]
    cases kind with
    | comment => exact absurd rfl noComment
    | string => exact absurd rfl noString
    | punctuation => exact ⟨c, begins, rfl⟩
    | blank | operator => exact inRun _ begins
    | symbol => exact ⟨c, [], begins, by simp, rfl⟩
    | number => exact ⟨[], [c], [], Or.inl rfl, inRun _ begins, Or.inl rfl, rfl⟩
    | unknown | endOfInput => cases begins
  obtain ⟨length, found, _⟩ := length?_ge kind [c] rest single
  intro unmatched
  rw [List.singleton_append, unmatched] at found
  cases found

/-- A rule that applies excludes those of the kinds outside its family. -/
theorem length?_apart (kind other : Kind) (text : Text) (length : Nat)
    (found : length? kind text = some length) (apart : family other ≠ family kind) :
    length? other text = none := by
  cases text with
  | nil =>
      have bound := length?_le kind [] length found
      exact absurd (length?_pos found) (Nat.not_lt.mpr bound)
  | cons c rest =>
      apply length?_unopened
      apply Bool.eq_false_iff.mpr
      intro begins
      have same := opening_of_opens kind c (opens_of_length? kind c rest length found)
      rw [opening_of_opens other c begins] at same
      exact apart same

theorem classify_found (kind : Kind) (text : Text) (length : Nat) (known : kind ≠ .unknown)
    (taken : classify text = (kind, length)) : length? kind text = some length := by
  obtain ⟨_, _, _, measured, _⟩ := (classifyBy_known_iff precedence text kind length known).mp taken
  exact measured

/-- The order matters for two kinds only. An operator gives way to a comment and a number to a
symbol. -/
theorem classify_eq_iff (kind : Kind) (text : Text) (length : Nat) (known : kind ≠ .unknown) :
    classify text = (kind, length) ↔
      length? kind text = some length ∧ (kind = .operator → comment? text = none) ∧
        (kind = .number → symbol? text = none) := by
  -- This direction comes first: it shows what would be taken if an earlier kind applied.
  have takes : ∀ kind length, length? kind text = some length →
      (kind = .operator → comment? text = none) → (kind = .number → symbol? text = none) →
        classify text = (kind, length) := by
    intro kind length found noComment noSymbol
    have others := fun other => length?_apart kind other text length found
    cases kind with
    | comment | punctuation | blank | string | symbol =>
        simp +decide [classify, classifyBy, precedence, found, others]
    | operator =>
        have first : length? .comment text = none := noComment rfl
        simp +decide [classify, classifyBy, precedence, found, others, first]
    | number =>
        have first : length? .symbol text = none := noSymbol rfl
        simp +decide [classify, classifyBy, precedence, found, others, first]
    | unknown | endOfInput => cases found
  constructor
  · intro taken
    refine ⟨classify_found kind text length known taken, ?_, ?_⟩
    · rintro rfl
      cases first : comment? text with
      | none => rfl
      | some size =>
          rw [takes .comment size first (by simp) (by simp)] at taken
          cases taken
    · rintro rfl
      cases first : symbol? text with
      | none => rfl
      | some size =>
          rw [takes .symbol size first (by simp) (by simp)] at taken
          cases taken
  · rintro ⟨found, noComment, noSymbol⟩
    exact takes kind length found noComment noSymbol

theorem classify_unknown_iff (text : Text) (length : Nat) :
    classify text = (.unknown, length) ↔ length = 1 ∧ ∀ kind, length? kind text = none := by
  rw [classify, classifyBy_unknown_iff]
  refine and_congr_right fun _ => ?_
  constructor
  · intro unmatched kind
    cases kind with
    | unknown | endOfInput => rfl
    | _ => exact unmatched _ (by decide)
  · intro unmatched kind _
    exact unmatched kind

end LexicalScan.Recognition
