import LexicalScan.JsonString

/-!
Reading quoted text back. The forms of the characters stand one behind another with nothing between
them, so a reader takes one form off the front at a time, and since no form begins with the delimiter,
the delimiter ends the text. What stands behind it is left as it is.
-/

namespace LexicalScan

namespace Quoting

/-- A way to read what a quoting writes: it takes the form of one character off the front of a text. -/
structure Reader (quoting : Quoting) where
  read? : Text → Option (Char × Text)
  shortens : ∀ text c rest, read? text = some (c, rest) → rest.length < text.length
  reads : ∀ c rest, read? (quoting.form c ++ rest) = some (c, rest)
  undelimited : ∀ c, (quoting.form c).head? ≠ some quoting.delimiter

namespace Reader

variable {quoting : Quoting} (reader : quoting.Reader)
include reader

def body? (text : Text) : Option (Text × Text) :=
  match text with
  | [] => none
  | first :: rest =>
    if first = quoting.delimiter then some ([], rest)
    else
      match _ : reader.read? (first :: rest) with
      | none => none
      | some (c, behind) => (body? behind).map fun found => (c :: found.1, found.2)
termination_by text.length
decreasing_by exact reader.shortens _ _ _ (by assumption)

def unquote? : Text → Option (Text × Text)
  | [] => none
  | first :: rest => if first = quoting.delimiter then reader.body? rest else none

theorem body?_delimiter (rest : Text) :
    reader.body? (quoting.delimiter :: rest) = some ([], rest) := by
  rw [body?, if_pos rfl]

theorem form_ne_nil (c : Char) : quoting.form c ≠ [] := by
  intro empty
  have taken := reader.reads c []
  rw [empty] at taken
  exact absurd (reader.shortens _ _ _ taken) (Nat.not_lt_zero _)

theorem body?_form (c : Char) (rest : Text) :
    reader.body? (quoting.form c ++ rest) =
      (reader.body? rest).map fun found => (c :: found.1, found.2) := by
  have taken := reader.reads c rest
  have undelimited := reader.undelimited c
  obtain ⟨first, tail, form⟩ := List.exists_cons_of_ne_nil (reader.form_ne_nil c)
  rw [form, List.cons_append] at taken ⊢
  rw [form, List.head?_cons] at undelimited
  have different : first ≠ quoting.delimiter := fun same => undelimited (congrArg some same)
  rw [body?, if_neg different]
  split
  · rename_i untaken
    rw [taken] at untaken
    cases untaken
  · rename_i same
    rw [taken] at same
    cases same
    rfl

theorem body?_flatMap (value rest : Text) :
    reader.body? (value.flatMap quoting.form ++ quoting.delimiter :: rest) =
      some (value, rest) := by
  induction value with
  | nil => exact reader.body?_delimiter rest
  | cons c value ih =>
      rw [List.flatMap_cons, List.append_assoc, body?_form, ih]
      rfl

theorem unquote?_quote (value rest : Text) :
    reader.unquote? (quoting.quote value ++ rest) = some (value, rest) := by
  rw [quote, List.cons_append, unquote?, if_pos rfl, List.append_assoc, List.singleton_append,
    body?_flatMap]

/-- No text begins with two different quoted ones. -/
theorem quote_append_inj (value other rest behind : Text)
    (same : quoting.quote value ++ rest = quoting.quote other ++ behind) :
    value = other ∧ rest = behind := by
  have read := reader.unquote?_quote value rest
  rw [same, reader.unquote?_quote other behind] at read
  cases read
  exact ⟨rfl, rfl⟩

end Reader

theorem mem_of_lookup {forms : List (Char × Char)} {c letter : Char}
    (found : forms.lookup c = some letter) : (c, letter) ∈ forms := by
  obtain ⟨earlier, later, split, _⟩ := List.lookup_eq_some_iff.mp found
  rw [split]
  exact List.mem_append_right earlier List.mem_cons_self

end Quoting

namespace JsonString

def digitValue (c : Char) : Nat := if c.isDigit then c.toNat - '0'.toNat else c.toNat - 'a'.toNat + 10

def read? : Text → Option (Char × Text)
  | '\\' :: 'u' :: '0' :: '0' :: high :: low :: rest =>
    some (Char.ofNat (16 * digitValue high + digitValue low), rest)
  | '\\' :: letter :: rest =>
    (shortForms.find? fun entry => entry.2 = letter).map fun entry => (entry.1, rest)
  | ['\\'] => none
  | c :: rest => some (c, rest)
  | [] => none

theorem read?_shortens (text rest : Text) (c : Char) (taken : read? text = some (c, rest)) :
    rest.length < text.length := by
  unfold read? at taken
  split at taken
  · cases taken
    simp only [List.length_cons]
    omega
  · obtain ⟨entry, _, same⟩ := Option.map_eq_some_iff.mp taken
    cases same
    simp only [List.length_cons]
    omega
  · cases taken
  · cases taken
    exact Nat.lt_succ_self _
  · cases taken

theorem digitValue_digitChar : ∀ digit < 16, digitValue digit.digitChar = digit := by decide

theorem form_cases (c : Char) :
    (∃ letter, (c, letter) ∈ shortForms ∧ form c = ['\\', letter]) ∨
      (c.toNat < 0x20 ∧ form c = byCodePoint c) ∨
      (0x20 ≤ c.toNat ∧ c ≠ '"' ∧ c ≠ '\\' ∧ form c = [c]) := by
  unfold form
  cases found : shortForms.lookup c with
  | some letter => exact Or.inl ⟨letter, Quoting.mem_of_lookup found, rfl⟩
  | none =>
      by_cases control : c.toNat < 0x20
      · exact Or.inr (Or.inl ⟨control, if_pos control⟩)
      · refine Or.inr (Or.inr ⟨Nat.le_of_not_lt control, ?_, ?_, if_neg control⟩)
        · rintro rfl
          exact absurd found (by decide)
        · rintro rfl
          exact absurd found (by decide)

theorem read?_short (c letter : Char) (rest : Text) (short : (c, letter) ∈ shortForms) :
    read? ('\\' :: letter :: rest) = some (c, rest) := by
  simp only [shortForms, List.mem_cons, List.not_mem_nil, Prod.mk.injEq, or_false] at short
  rcases short with ⟨rfl, rfl⟩ | ⟨rfl, rfl⟩ | ⟨rfl, rfl⟩ | ⟨rfl, rfl⟩ | ⟨rfl, rfl⟩ | ⟨rfl, rfl⟩ |
    ⟨rfl, rfl⟩ <;> rfl

theorem read?_byCodePoint (c : Char) (rest : Text) (control : c.toNat < 0x20) :
    read? (byCodePoint c ++ rest) = some (c, rest) := by
  have high := digitValue_digitChar (c.toNat / 16) (by omega)
  have low := digitValue_digitChar (c.toNat % 16) (by omega)
  simp only [byCodePoint, List.cons_append, List.nil_append, read?, high, low,
    Nat.div_add_mod, Char.ofNat_toNat]

theorem read?_plain (c : Char) (rest : Text) (plain : c ≠ '\\') :
    read? (c :: rest) = some (c, rest) := by
  simp [read?, plain]

theorem read?_form (c : Char) (rest : Text) : read? (form c ++ rest) = some (c, rest) := by
  rcases form_cases c with ⟨letter, short, written⟩ | ⟨control, written⟩ | ⟨_, _, plain, written⟩
  · rw [written]
    exact read?_short c letter rest short
  · rw [written]
    exact read?_byCodePoint c rest control
  · rw [written]
    exact read?_plain c rest plain

/-- An escape begins with a backslash, and a double quote never stands for itself. -/
theorem form_undelimited (c : Char) : (form c).head? ≠ some '"' := by
  rcases form_cases c with ⟨letter, _, written⟩ | ⟨_, written⟩ | ⟨_, other, _, written⟩
  · simp [written]
  · simp [written, byCodePoint]
  · simpa [written] using other

def reader : quoting.Reader where
  read? := read?
  shortens text c rest taken := read?_shortens text rest c taken
  reads := read?_form
  undelimited := form_undelimited

end JsonString

end LexicalScan
