import LexicalScan.Proofs.Runs
import LexicalScan.Proofs.Unquoting
import LexicalScan.Token

/-!
Reading a token back from its text. The label ends at the first tab, the quoted value ends with its
delimiter, and a number ends where its digits do. No part holds a control character, since every control
character of the value has an escape. So a tab stands only where the text sets one, and a newline
nowhere.
-/

namespace LexicalScan

open Recognition

namespace Text

def Visible (text : Text) : Prop := ∀ c ∈ text, 0x20 ≤ c.toNat

@[simp]
theorem visible_nil : Visible [] := by
  intro c member
  cases member

@[simp]
theorem visible_cons (c : Char) (text : Text) :
    Visible (c :: text) ↔ 0x20 ≤ c.toNat ∧ Visible text :=
  List.forall_mem_cons

@[simp]
theorem visible_append (text rest : Text) : Visible (text ++ rest) ↔ Visible text ∧ Visible rest :=
  List.forall_mem_append

theorem Visible.notMem {text : Text} (visible : Visible text) (c : Char) (control : c.toNat < 0x20) :
    c ∉ text :=
  fun member => absurd (visible c member) (Nat.not_le_of_lt control)

theorem visible_decimal (number : Nat) : Visible (decimal number) := by
  intro c member
  have isDigit := isDigit_decimal number c member
  rw [Char.isDigit_iff_toNat] at isDigit
  exact Nat.le_trans (by decide) isDigit.1

def readNumber (text : Text) : Nat × Text :=
  (Nat.ofDigitChars 10 (text.takeWhile Char.isDigit) 0, text.dropWhile Char.isDigit)

theorem readNumber_decimal (number : Nat) (rest : Text) (stops : Stops Char.isDigit rest) :
    readNumber (decimal number ++ rest) = (number, rest) := by
  have digits := isDigit_decimal number
  have ends : rest.takeWhile Char.isDigit = [] ∧ rest.dropWhile Char.isDigit = rest := by
    cases rest with
    | nil => exact ⟨rfl, rfl⟩
    | cons c rest =>
        have outside := Bool.eq_false_iff.mp ((stops_cons _ c rest).mp stops)
        exact ⟨List.takeWhile_cons_of_neg outside, List.dropWhile_cons_of_neg outside⟩
  rw [readNumber, List.takeWhile_append_of_pos digits, List.dropWhile_append_of_pos digits, ends.1,
    ends.2, List.append_nil, decimal, Nat.ofDigitChars_ten_toDigits]

end Text

namespace JsonString

theorem visible_form (c : Char) : Text.Visible (form c) := by
  have letters : ∀ entry ∈ shortForms, 0x20 ≤ entry.2.toNat := by decide
  have digits : ∀ digit < 16, 0x20 ≤ digit.digitChar.toNat := by decide
  rcases form_cases c with ⟨letter, short, written⟩ | ⟨control, written⟩ | ⟨visible, _, _, written⟩
  · have visible := letters _ short
    simpa [written] using visible
  · have high := digits (c.toNat / 16) (by omega)
    have low := digits (c.toNat % 16) (by omega)
    simp [written, byCodePoint, high, low]
  · simpa [written] using visible

theorem visible_quote (value : Text) : Text.Visible (quoting.quote value) := by
  have body : Text.Visible (value.flatMap form) := by
    intro written member
    obtain ⟨c, _, inForm⟩ := List.mem_flatMap.mp member
    exact visible_form c written inForm
  simp [Quoting.quote, quoting, body]

end JsonString

namespace Kind

def all : List Kind :=
  [string, number, operator, blank, symbol, comment, punctuation, unknown, endOfInput]

def ofLabel? (label : Text) : Option Kind := all.find? fun kind => kind.label = label

theorem ofLabel?_label (kind : Kind) : ofLabel? kind.label = some kind := by
  cases kind <;> rfl

theorem visible_label (kind : Kind) : Text.Visible kind.label := by
  cases kind <;> simp [label]

end Kind

namespace Token

def readPlace? : Text → Option (Option Position)
  | [] => some none
  | '\t' :: '(' :: rest =>
    match Text.readNumber rest with
    | (row, ',' :: ' ' :: behind) =>
      match Text.readNumber behind with
      | (col, [')']) => some (some ⟨row, col⟩)
      | _ => none
    | _ => none
  | _ => none

def coordinates (position : Position) : Text :=
  '(' :: (Text.decimal position.row ++ ',' :: ' ' :: (Text.decimal position.col ++ [')']))

theorem visible_coordinates (position : Position) : Text.Visible (coordinates position) := by
  simp [coordinates, Text.visible_decimal]

theorem place_some (position : Position) :
    place (some position) = '\t' :: coordinates position := by
  simp [place, coordinates]

theorem readPlace?_place (position? : Option Position) :
    readPlace? (place position?) = some position? := by
  cases position? with
  | none => rfl
  | some position =>
      have col := Text.readNumber_decimal position.col [')'] ((stops_cons _ _ _).mpr rfl)
      have row := Text.readNumber_decimal position.row
        (',' :: ' ' :: (Text.decimal position.col ++ [')'])) ((stops_cons _ _ _).mpr rfl)
      simp only [place_some, coordinates, readPlace?, row, col]

def ofText? (text : Text) : Option Token :=
  match Kind.ofLabel? (text.takeWhile (· != '\t')), text.dropWhile (· != '\t') with
  | some kind, '\t' :: '[' :: quoted =>
    match JsonString.reader.unquote? quoted with
    | some (value, ']' :: behind) => (readPlace? behind).map fun position? => ⟨kind, value, position?⟩
    | _ => none
  | _, _ => none

theorem text_eq (token : Token) :
    token.text = token.kind.label ++ '\t' :: '[' ::
      (JsonString.quoting.quote token.value ++ ']' :: place token.position?) := by
  simp [text]

/-- A token is read back from its text, whatever its value holds. -/
theorem ofText?_text (token : Token) : ofText? token.text = some token := by
  have noTab := (Kind.visible_label token.kind).notMem '\t' (by decide)
  rw [ofText?, text_eq, Text.takeWhile_field _ _ noTab, Text.dropWhile_field _ _ noTab,
    Kind.ofLabel?_label]
  simp only [JsonString.reader.unquote?_quote, readPlace?_place, Option.map_some]

/-- A value that spells an escape is told from the character of the escape. -/
example : ofText? "Str\t[\"\\\\u0009\\t\"]\t(1, 20)".toList =
    some ⟨.string, "\\u0009\t".toList, some ⟨1, 20⟩⟩ := by
  decide +kernel

theorem tab_of_place (position? : Option Position) (c : Char) (member : c ∈ place position?)
    (control : c.toNat < 0x20) : c = '\t' := by
  cases position? with
  | none => cases member
  | some position =>
      rw [place_some, List.mem_cons] at member
      exact member.resolve_right ((visible_coordinates position).notMem c control)

theorem tab_of_control (token : Token) (c : Char) (member : c ∈ token.text)
    (control : c.toNat < 0x20) : c = '\t' := by
  simp only [text_eq, List.mem_append, List.mem_cons] at member
  rcases member with inLabel | tab | rfl | inValue | rfl | inPlace
  · exact absurd inLabel ((Kind.visible_label token.kind).notMem c control)
  · exact tab
  · contradiction
  · exact absurd inValue ((JsonString.visible_quote token.value).notMem c control)
  · contradiction
  · exact tab_of_place token.position? c inPlace control

theorem newline_notMem_text (token : Token) : '\n' ∉ token.text := by
  intro member
  have tab := tab_of_control token '\n' member (by decide)
  contradiction

def fields (token : Token) : List Text :=
  [token.kind.label, '[' :: (JsonString.quoting.quote token.value ++ [']'])] ++
    (token.position?.map coordinates).toList

theorem visible_fields (token : Token) : ∀ field ∈ token.fields, Text.Visible field := by
  have value := JsonString.visible_quote token.value
  intro field member
  simp only [fields, List.mem_append, List.mem_cons, List.not_mem_nil, or_false,
    Option.mem_toList, Option.map_eq_some_iff] at member
  rcases member with (rfl | rfl) | ⟨position, _, rfl⟩
  · exact Kind.visible_label token.kind
  · simp [value]
  · exact visible_coordinates position

theorem text_eq_intercalate (token : Token) : token.text = List.intercalate ['\t'] token.fields := by
  cases position : token.position? with
  | none => simp [text_eq, fields, position, place]
  | some position => simp [text_eq, fields, position, place_some]

theorem splitOn_text (token : Token) : token.text.splitOn '\t' = token.fields := by
  rw [text_eq_intercalate]
  apply List.splitOn_intercalate
  · intro field member
    exact (visible_fields token field member).notMem '\t' (by decide)
  · exact List.cons_ne_nil _ _

/-- Different tokens have different texts. There is no control character in the text of a token but the
tab behind the kind and the tab in front of the position. -/
theorem text_lossless (token other : Token) :
    (token.text = other.text ↔ token = other) ∧
      token.text.splitOn '\t' = token.fields ∧ Text.Visible token.fields.flatten := by
  refine ⟨?_, splitOn_text token, ?_⟩
  · constructor
    · intro same
      have read := ofText?_text token
      rw [same, ofText?_text other] at read
      exact (Option.some.inj read).symm
    · exact congrArg text
  · intro c member
    obtain ⟨field, inside, found⟩ := List.mem_flatten.mp member
    exact visible_fields token field inside c found

end Token

end LexicalScan
