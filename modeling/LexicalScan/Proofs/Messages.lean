import LexicalScan.Diagnostic
import LexicalScan.Proofs.Runs
import LexicalScan.Proofs.Unquoting

/-!
What a message tells of its diagnostic. From the left, the cause ends with the delimiter of its quoted
part, since no character of that part is written as the delimiter. From the right, the column and the row
are the digits behind the last two colons. So the name of the file is what is left between them, whatever
it holds, and different diagnostics have different messages.
-/

namespace LexicalScan

namespace Text

/-- A number has one hexadecimal digit, or one digit more than the number without its last digit. -/
theorem hexadecimal_induction {holds : Nat → Prop}
    (digit : ∀ number < 16, hexadecimal number = [number.digitChar] → holds number)
    (more : ∀ front, ∀ last < 16,
      hexadecimal (16 * front + last) = hexadecimal front ++ [last.digitChar] →
        holds front → holds (16 * front + last))
    (number : Nat) : holds number := by
  induction number using Nat.strongRecOn with
  | ind number ih =>
      by_cases single : number < 16
      · exact digit number single (Nat.toDigits_of_lt_base single)
      · have written : hexadecimal number =
            hexadecimal (number / 16) ++ [(number % 16).digitChar] :=
          Nat.toDigits_of_base_le (by decide) (Nat.le_of_not_lt single)
        have longer := more (number / 16) (number % 16) (by omega)
        rw [Nat.div_add_mod] at longer
        exact longer written (ih (number / 16) (by omega))

def ofHexadecimal (digits : Text) : Nat :=
  digits.foldl (fun front last => 16 * front + JsonString.digitValue last) 0

theorem ofHexadecimal_hexadecimal (number : Nat) : ofHexadecimal (hexadecimal number) = number := by
  induction number using hexadecimal_induction with
  | digit number single written =>
      rw [written, ofHexadecimal, List.foldl_cons, List.foldl_nil,
        JsonString.digitValue_digitChar number single, Nat.mul_zero, Nat.zero_add]
  | more front last single written ih =>
      rw [ofHexadecimal] at ih
      rw [written, ofHexadecimal, List.foldl_append, ih, List.foldl_cons, List.foldl_nil,
        JsonString.digitValue_digitChar last single]

theorem brace_notMem_hexadecimal (number : Nat) : '}' ∉ hexadecimal number := by
  have noBrace : ∀ digit < 16, '}' ≠ digit.digitChar := by decide
  induction number using hexadecimal_induction with
  | digit number single written => simp [written, noBrace number single]
  | more front last single written ih => simp [written, ih, noBrace last single]

theorem decimal_injective : Function.Injective decimal := by
  intro number other same
  have read := congrArg (Nat.ofDigitChars 10 · 0) same
  simpa only [decimal, Nat.ofDigitChars_ten_toDigits] using read

/-- A mark is the last of its sort in a text at one place only. -/
theorem split_last_inj (mark : Char) (front other field behind : Text)
    (plain : mark ∉ field) (plainBehind : mark ∉ behind)
    (same : front ++ mark :: field = other ++ mark :: behind) : front = other ∧ field = behind := by
  have parted := congrArg (List.splitOn mark) same
  rw [List.splitOn_append_cons_self, List.splitOn_append_cons_self,
    List.splitOn_eq_singleton plain, List.splitOn_eq_singleton plainBehind] at parted
  have fields := List.append_inj_right' parted rfl
  cases fields
  exact ⟨List.append_cancel_right same, rfl⟩

end Text

namespace MessageQuote

def read? (delimiter : Char) : Text → Option (Char × Text)
  | '\\' :: 'u' :: '{' :: rest =>
    match rest.dropWhile (· != '}') with
    | [] => none
    | _ :: behind =>
      some (Char.ofNat (Text.ofHexadecimal (rest.takeWhile (· != '}'))), behind)
  | '\\' :: letter :: rest =>
    if letter = delimiter then some (delimiter, rest)
    else (shortForms.find? fun entry => entry.2 = letter).map fun entry => (entry.1, rest)
  | ['\\'] => none
  | c :: rest => some (c, rest)
  | [] => none

theorem read?_shortens (delimiter c : Char) (text rest : Text)
    (taken : read? delimiter text = some (c, rest)) : rest.length < text.length := by
  unfold read? at taken
  split at taken
  · rename_i tail
    have shorter := (List.dropWhile_suffix (· != '}') (l := tail)).length_le
    split at taken
    · cases taken
    · rename_i left
      cases taken
      rw [left] at shorter
      simp only [List.length_cons] at shorter ⊢
      omega
  · split at taken
    · cases taken
      simp only [List.length_cons]
      omega
    · obtain ⟨entry, _, same⟩ := Option.map_eq_some_iff.mp taken
      cases same
      simp only [List.length_cons]
      omega
  · cases taken
  · cases taken
    exact Nat.lt_succ_self _
  · cases taken

theorem form_cases (delimiter c : Char) :
    (c = delimiter ∧ form delimiter c = ['\\', delimiter]) ∨
      (∃ letter, (c, letter) ∈ shortForms ∧ form delimiter c = ['\\', letter]) ∨
      form delimiter c = byCodePoint c ∨
      (c ≠ delimiter ∧ c ≠ '\\' ∧ form delimiter c = [c]) := by
  unfold form
  by_cases delimits : c = delimiter
  · subst delimits
    exact Or.inl ⟨rfl, if_pos rfl⟩
  rw [if_neg delimits]
  cases found : shortForms.lookup c with
  | some letter => exact Or.inr (Or.inl ⟨letter, Quoting.mem_of_lookup found, rfl⟩)
  | none =>
      by_cases unseen : (c.toNat < 0x20 || Nongraphic.isNongraphic c) = true
      · exact Or.inr (Or.inr (Or.inl (if_pos unseen)))
      · refine Or.inr (Or.inr (Or.inr ⟨delimits, ?_, if_neg unseen⟩))
        rintro rfl
        contradiction

theorem quote_cases (c : Char) (isQuote : Alphabet.isQuote c = true) : c = '"' ∨ c = '\'' := by
  simpa [Alphabet.isQuote] using isQuote

section Reading

variable (delimiter : Char) (isQuote : Alphabet.isQuote delimiter = true)

theorem read?_byCodePoint (c : Char) (rest : Text) :
    read? delimiter (byCodePoint c ++ rest) = some (c, rest) := by
  have noBrace := Text.brace_notMem_hexadecimal c.toNat
  have written : byCodePoint c ++ rest =
      '\\' :: 'u' :: '{' :: (Text.hexadecimal c.toNat ++ '}' :: rest) := by
    simp [byCodePoint]
  rw [written, read?, Text.takeWhile_field _ _ noBrace, Text.dropWhile_field _ _ noBrace,
    Text.ofHexadecimal_hexadecimal, Char.ofNat_toNat]

theorem read?_plain (c : Char) (rest : Text) (plain : c ≠ '\\') :
    read? delimiter (c :: rest) = some (c, rest) := by
  simp [read?, plain]

include isQuote

theorem read?_delimiter (rest : Text) :
    read? delimiter ('\\' :: delimiter :: rest) = some (delimiter, rest) := by
  rcases quote_cases delimiter isQuote with rfl | rfl <;> rfl

/-- No quote is the letter of another escape. -/
theorem read?_short (c letter : Char) (rest : Text) (short : (c, letter) ∈ shortForms) :
    read? delimiter ('\\' :: letter :: rest) = some (c, rest) := by
  simp only [shortForms, List.mem_cons, List.not_mem_nil, Prod.mk.injEq, or_false] at short
  rcases quote_cases delimiter isQuote with rfl | rfl <;>
    rcases short with ⟨rfl, rfl⟩ | ⟨rfl, rfl⟩ | ⟨rfl, rfl⟩ | ⟨rfl, rfl⟩ | ⟨rfl, rfl⟩ <;> rfl

theorem read?_form (c : Char) (rest : Text) :
    read? delimiter (form delimiter c ++ rest) = some (c, rest) := by
  rcases form_cases delimiter c with
    ⟨rfl, written⟩ | ⟨letter, short, written⟩ | written | ⟨_, plain, written⟩
  · rw [written]
    exact read?_delimiter c isQuote rest
  · rw [written]
    exact read?_short delimiter isQuote c letter rest short
  · rw [written]
    exact read?_byCodePoint delimiter c rest
  · rw [written]
    exact read?_plain delimiter c rest plain

theorem form_undelimited (c : Char) : (form delimiter c).head? ≠ some delimiter := by
  have escape : '\\' ≠ delimiter := by
    rintro rfl
    contradiction
  rcases form_cases delimiter c with
    ⟨_, written⟩ | ⟨letter, _, written⟩ | written | ⟨other, _, written⟩
  · simpa [written] using escape
  · simpa [written] using escape
  · simpa [written, byCodePoint] using escape
  · simpa [written] using other

end Reading

def reader (delimiter : Char) (isQuote : Alphabet.isQuote delimiter = true) :
    (quoting delimiter).Reader where
  read? := read? delimiter
  shortens text c rest taken := read?_shortens delimiter c text rest taken
  reads := read?_form delimiter isQuote
  undelimited := form_undelimited delimiter isQuote

end MessageQuote

namespace Cause

theorem text_unrecognised (token : Text) :
    (unrecognised token).text =
      "unrecognised token: ".toList ++ (MessageQuote.quoting '"').quote token := rfl

theorem text_unterminated (quote : Char) :
    (unterminated quote).text =
      "unterminated string starting with ".toList ++ (MessageQuote.quoting '\'').quote [quote] := rfl

/-- The words of a cause end where its quoted part does, and they tell what is quoted. -/
theorem text_append_inj (cause other : Cause) (rest behind : Text)
    (same : cause.text ++ rest = other.text ++ behind) : cause = other ∧ rest = behind := by
  cases cause with
  | unrecognised token =>
      cases other with
      | unrecognised found =>
          rw [text_unrecognised, text_unrecognised, List.append_assoc, List.append_assoc] at same
          obtain ⟨rfl, rfl⟩ := (MessageQuote.reader '"' rfl).quote_append_inj token found rest behind
            (List.append_cancel_left same)
          exact ⟨rfl, rfl⟩
      | unterminated quote =>
          rw [text_unrecognised, text_unterminated] at same
          simp at same
  | unterminated quote =>
      cases other with
      | unrecognised found =>
          rw [text_unrecognised, text_unterminated] at same
          simp at same
      | unterminated found =>
          rw [text_unterminated, text_unterminated, List.append_assoc, List.append_assoc] at same
          obtain ⟨quoted, rfl⟩ := (MessageQuote.reader '\'' rfl).quote_append_inj [quote] [found] rest
            behind (List.append_cancel_left same)
          cases quoted
          exact ⟨rfl, rfl⟩

end Cause

/-- Behind a colon at the end of some text, a position tells its numbers and which text it is. -/
theorem Position.text_append_inj (front other : Text) (position elsewhere : Position)
    (same : front ++ ':' :: position.text = other ++ ':' :: elsewhere.text) :
    front = other ∧ position = elsewhere := by
  have noColon : ∀ number, ':' ∉ Text.decimal number :=
    fun number => Text.notMem_decimal number ':' rfl
  simp only [text, List.append_assoc, List.singleton_append] at same
  have columns := Text.split_last_inj ':' (front ++ ':' :: Text.decimal position.row)
    (other ++ ':' :: Text.decimal elsewhere.row) _ _ (noColon position.col) (noColon elsewhere.col)
    (by simpa using same)
  obtain ⟨rfl, sameRow⟩ := Text.split_last_inj ':' front other _ _ (noColon position.row)
    (noColon elsewhere.row) columns.1
  refine ⟨rfl, ?_⟩
  obtain ⟨row, col⟩ := position
  cases Text.decimal_injective sameRow
  cases Text.decimal_injective columns.2
  rfl

namespace Diagnostic

/-- Messages are the same exactly if they tell the same cause at the same position of a file of the same
name. A file without a name goes by the name that is set for it. -/
theorem inFile_text_iff (cause other : Cause) (position elsewhere : Position)
    (file? other? : Option Text) :
    (inFile file? cause position).text = (inFile other? other elsewhere).text ↔
      cause = other ∧ position = elsewhere ∧
        file?.getD "shell".toList = other?.getD "shell".toList := by
  constructor
  · intro same
    simp only [text, inFile, List.append_assoc, List.singleton_append] at same
    obtain ⟨rfl, behind⟩ := Cause.text_append_inj cause other _ _ same
    obtain ⟨sameFile, rfl⟩ := Position.text_append_inj _ _ position elsewhere
      (List.append_cancel_left behind)
    exact ⟨rfl, rfl, sameFile⟩
  · rintro ⟨rfl, rfl, sameFile⟩
    have alike : inFile file? cause position = inFile other? cause position :=
      congrArg (Diagnostic.mk cause position) sameFile
    rw [alike]

end Diagnostic

end LexicalScan
