import LexicalScan.Proofs.Coverage
import LexicalScan.Proofs.Cursor
import LexicalScan.Strict

/-!
Strict reading against plain reading. Strict reading stops at the first complaint, so it is a search
through the tokens that plain reading gives. It accepts them all or reports the first unknown piece,
which is one character. If that is a quote, nothing in the rest of the source closes it.
-/

namespace LexicalScan

open Recognition Alphabet

namespace Scanner

variable (file? : Option Text)

theorem checkBehind_none (scanner : Scanner) (taken : List Token)
    (stopped : scanner.pull? = none) : scanner.checkBehind file? taken = .ok taken.reverse := by
  rw [checkBehind]
  split
  · rfl
  · rename_i pulled
    rw [stopped] at pulled
    cases pulled

theorem checkBehind_some (scanner next : Scanner) (token : Token) (taken : List Token)
    (pulled : scanner.pull? = some (token, next)) :
    scanner.checkBehind file? taken =
      (complaint? file? token).elim (next.checkBehind file? (token :: taken)) .error := by
  rw [checkBehind]
  split
  · rename_i stopped
    rw [pulled] at stopped
    cases stopped
  · rename_i same
    rw [pulled] at same
    cases same
    cases complaint? file? token <;> rfl

/-- Reading up to the first complaint is a search for it among all items. -/
theorem checkBehind_eq (scanner : Scanner) :
    ∀ taken, scanner.checkBehind file? taken =
      (scanner.items.findSome? (complaint? file?)).elim (.ok (taken.reverse ++ scanner.items))
        .error := by
  -- The items accepted are generalised, since each pull puts one more in front.
  induction scanner using pull_induction precedence with
  | stopped scanner stopped =>
      intro taken
      rw [checkBehind_none file? scanner taken stopped, items_none scanner stopped]
      simp
  | pulled scanner next token pulled ih =>
      intro taken
      rw [checkBehind_some file? scanner next token taken pulled,
        items_some scanner next token pulled, List.findSome?_cons]
      cases complaint? file? token with
      | some diagnostic => rfl
      | none =>
          rw [Option.elim_none, ih]
          simp

end Scanner

theorem strictTokens_eq (source : Text) (file? : Option Text) :
    strictTokens source file? =
      ((tokens source).findSome? (Scanner.complaint? file?)).elim (.ok (tokens source)) .error :=
  Scanner.checkBehind_eq file? (Scanner.ofText source) []

/-- The first unknown piece of a source: one character, with the text in front of it cut into known
pieces and the text behind it. -/
structure FirstUnknown (source before : Text) (cause : Char) (after : Text) : Prop where
  split : source = before ++ cause :: after
  first : ∃ earlier later,
    tokens source = earlier ++ ⟨.unknown, [cause], some (Position.behind before)⟩ :: later ∧
      earlier.flatMap Token.value = before ∧ ∀ token ∈ earlier, token.kind ≠ .unknown

theorem unknown_token (source : Text) (earlier later : List Token) (token : Token)
    (split : tokens source = earlier ++ token :: later) (unknown : token.kind = .unknown) :
    ∃ cause after, source = earlier.flatMap Token.value ++ cause :: after ∧
      token = ⟨.unknown, [cause], some (Position.behind (earlier.flatMap Token.value))⟩ := by
  have notEnd : token.isEnd = false := by simp [Token.isEnd, unknown]
  obtain ⟨after, cut, heads⟩ := tokens_heads source earlier later token split notEnd
  have located := Scanner.items_located source (Scanner.ofText source) []
    (Scanner.tracks_ofText source) earlier token later split
  have place := located.place
  rw [notEnd, List.nil_append] at place
  obtain ⟨kind, value, position?⟩ := token
  cases unknown
  cases place
  obtain ⟨cause, rfl, _⟩ := (heads_unknown_iff value after).mp heads
  rw [List.append_assoc] at cut
  exact ⟨cause, after, cut, rfl⟩

theorem firstUnknown_of_outline (source : Text) (pieces later : List Piece) (cause : Char)
    (split : outline source = pieces ++ (.unknown, [cause]) :: later)
    (known : ∀ piece ∈ pieces, piece.1 ≠ .unknown) :
    ∃ after, FirstUnknown source (printed pieces) cause after := by
  obtain ⟨earlier, rest, cut, rfl, outlined⟩ := List.map_eq_append_iff.mp split
  obtain ⟨token, behind, rfl, piece, _⟩ := List.map_eq_cons_iff.mp outlined
  obtain ⟨kind, value⟩ := Prod.mk.inj piece
  obtain ⟨found, after, source_eq, rfl⟩ := unknown_token source earlier behind token cut kind
  cases value
  rw [printed_pieces]
  refine ⟨after, source_eq, earlier, behind, cut, rfl, ?_⟩
  intro token member
  exact known token.piece (List.mem_map_of_mem member)

theorem firstUnknown_or_known (source : Text) :
    (∀ token ∈ tokens source, token.kind ≠ .unknown) ∨
      ∃ before cause after, FirstUnknown source before cause after := by
  cases found : (tokens source).find? fun token => token.kind == .unknown with
  | none =>
      left
      intro token member
      simpa using List.find?_eq_none.mp found token member
  | some token =>
      right
      obtain ⟨isUnknown, earlier, later, split, known⟩ := List.find?_eq_some_iff_append.mp found
      have unknown : token.kind = .unknown := eq_of_beq isUnknown
      obtain ⟨cause, after, cut, rfl⟩ := unknown_token source earlier later token split unknown
      refine ⟨earlier.flatMap Token.value, cause, after, cut, earlier, later, split, rfl, ?_⟩
      intro token member
      simpa using known token member

namespace FirstUnknown

variable {source before after : Text} {cause : Char}

theorem heads (unknown : FirstUnknown source before cause after) :
    Heads (.unknown, [cause]) after := by
  obtain ⟨earlier, later, split, values, _⟩ := unknown.first
  obtain ⟨rest, cut, heads⟩ := tokens_heads source earlier later _ split rfl
  rw [values, List.append_assoc, unknown.split] at cut
  cases List.append_cancel_left cut
  exact heads

theorem unopened (unknown : FirstUnknown source before cause after) (kind : Kind)
    (noString : kind ≠ .string) : opens kind cause = false := by
  obtain ⟨c, same, closed, _⟩ := (heads_unknown_iff [cause] after).mp unknown.heads
  cases same
  exact closed kind noString

theorem unclosed (unknown : FirstUnknown source before cause after)
    (isQuote : isQuote cause = true) : Unclosed cause after := by
  obtain ⟨c, same, _, unclosed⟩ := (heads_unknown_iff [cause] after).mp unknown.heads
  cases same
  exact unclosed isQuote

end FirstUnknown

theorem strictTokens_known (source : Text) (file? : Option Text)
    (known : ∀ token ∈ tokens source, token.kind ≠ .unknown) :
    strictTokens source file? = .ok (tokens source) := by
  have silent : (tokens source).findSome? (Scanner.complaint? file?) = none := by
    rw [List.findSome?_eq_none_iff]
    intro token member
    exact if_neg (known token member)
  rw [strictTokens_eq, silent]
  rfl

theorem strictTokens_complaint (source : Text) (file? : Option Text) (diagnostic : Diagnostic)
    (complains : (tokens source).findSome? (Scanner.complaint? file?) = some diagnostic) :
    strictTokens source file? = .error diagnostic := by
  rw [strictTokens_eq, complains]
  rfl

theorem strictTokens_unknown (source before after : Text) (cause : Char) (file? : Option Text)
    (unknown : FirstUnknown source before cause after) :
    strictTokens source file? =
      .error (.inFile file? (Cause.ofUnknown [cause]) (Position.behind before)) := by
  obtain ⟨earlier, later, split, _, known⟩ := unknown.first
  apply strictTokens_complaint
  refine List.findSome?_eq_some_iff.mpr ⟨earlier, _, later, split, rfl, ?_⟩
  intro token member
  exact if_neg (known token member)

theorem strictTokens_accepts_iff (source : Text) (file? : Option Text) :
    (∃ accepted, strictTokens source file? = .ok accepted) ↔
      ¬ ∃ token ∈ tokens source, token.kind = .unknown := by
  rcases firstUnknown_or_known source with known | ⟨before, cause, after, unknown⟩
  · rw [strictTokens_known source file? known]
    refine iff_of_true ⟨_, rfl⟩ ?_
    rintro ⟨token, member, isUnknown⟩
    exact known token member isUnknown
  · rw [strictTokens_unknown source before after cause file? unknown]
    obtain ⟨earlier, later, split, _⟩ := unknown.first
    apply iff_of_false
    · rintro ⟨accepted, accepts⟩
      cases accepts
    · intro absent
      apply absent
      rw [split]
      exact ⟨_, List.mem_append_right _ List.mem_cons_self, rfl⟩

theorem strictTokens_error_iff (source : Text) (file? : Option Text) (diagnostic : Diagnostic) :
    strictTokens source file? = .error diagnostic ↔
      ∃ before cause after, FirstUnknown source before cause after ∧
        diagnostic = .inFile file? (Cause.ofUnknown [cause]) (Position.behind before) := by
  constructor
  · intro refused
    rcases firstUnknown_or_known source with known | ⟨before, cause, after, unknown⟩
    · rw [strictTokens_known source file? known] at refused
      cases refused
    · rw [strictTokens_unknown source before after cause file? unknown] at refused
      cases refused
      exact ⟨before, cause, after, unknown, rfl⟩
  · rintro ⟨before, cause, after, unknown, rfl⟩
    exact strictTokens_unknown source before after cause file? unknown

theorem strictTokens_refused (source : Text) (file? : Option Text)
    (unknown : ∃ token ∈ tokens source, token.kind = .unknown) :
    ∃ diagnostic, strictTokens source file? = .error diagnostic ∧
      diagnostic.file = file?.getD Diagnostic.unnamedFile := by
  cases refused : strictTokens source file? with
  | ok accepted =>
      exact absurd unknown ((strictTokens_accepts_iff source file?).mp ⟨accepted, refused⟩)
  | error diagnostic =>
      obtain ⟨before, cause, after, _, rfl⟩ :=
        (strictTokens_error_iff source file? diagnostic).mp refused
      exact ⟨_, rfl, rfl⟩

theorem firstUnknown_of_error (source : Text) (file? : Option Text) (diagnostic : Diagnostic)
    (refused : strictTokens source file? = .error diagnostic) :
    ∃ before cause after, FirstUnknown source before cause after ∧
      diagnostic.position = Position.behind before := by
  obtain ⟨before, cause, after, unknown, rfl⟩ :=
    (strictTokens_error_iff source file? diagnostic).mp refused
  exact ⟨before, cause, after, unknown, rfl⟩

/-- What is wrong with an unknown character that stands behind some text of a source. A quote is said
to be unterminated, and every further quote of its sort in the source stands behind backslashes of odd
number. -/
inductive Explains (source before : Text) : Char → Cause → Prop where
  | unterminated {quote : Char} :
      isQuote quote = true →
      (∀ inside after, source = before ++ quote :: inside ++ quote :: after →
        ¬ Paired (before ++ quote :: inside)) →
      Explains source before quote (.unterminated quote)
  | unrecognised {c : Char} :
      isQuote c = false → Explains source before c (.unrecognised [c])

theorem explains_cause (source before : Text) (c : Char) (cause : Cause)
    (explains : Explains source before c cause) : cause = Cause.ofUnknown [c] := by
  cases explains with
  | unterminated isQuote _ => rw [Cause.ofUnknown, if_pos isQuote]
  | unrecognised noQuote => simp [Cause.ofUnknown, noQuote]

theorem FirstUnknown.explains {source before after : Text} {cause : Char}
    (unknown : FirstUnknown source before cause after) :
    Explains source before cause (Cause.ofUnknown [cause]) := by
  cases quoted : isQuote cause with
  | true =>
      rw [Cause.ofUnknown, if_pos quoted]
      refine .unterminated quoted ?_
      intro inside behind split
      rw [paired_behind before inside cause (quote_ne_backslash quoted)]
      rw [unknown.split, List.append_assoc] at split
      cases List.append_cancel_left split
      exact unknown.unclosed quoted inside behind rfl
  | false =>
      simp only [Cause.ofUnknown, quoted]
      exact .unrecognised quoted

/-- Strict reading accepts a source exactly if no token of it is unknown, and gives the tokens as they
are. Otherwise it reports the first unknown token: its place, the name of the file, and what is wrong
with its one character. -/
theorem strictTokens_exact (source : Text) (file? : Option Text) :
    (∀ accepted, strictTokens source file? = .ok accepted ↔
      (∀ token ∈ tokens source, token.kind ≠ .unknown) ∧ accepted = tokens source) ∧
    ∀ diagnostic, strictTokens source file? = .error diagnostic ↔
      ∃ before cause after, FirstUnknown source before cause after ∧
        diagnostic.position = Position.behind before ∧
        diagnostic.file = file?.getD "shell".toList ∧
        Explains source before cause diagnostic.cause := by
  constructor
  · intro accepted
    constructor
    · intro accepts
      rcases firstUnknown_or_known source with known | ⟨before, cause, after, unknown⟩
      · rw [strictTokens_known source file? known] at accepts
        cases accepts
        exact ⟨known, rfl⟩
      · rw [strictTokens_unknown source before after cause file? unknown] at accepts
        cases accepts
    · rintro ⟨known, rfl⟩
      exact strictTokens_known source file? known
  · intro diagnostic
    rw [strictTokens_error_iff]
    constructor
    · rintro ⟨before, cause, after, unknown, rfl⟩
      exact ⟨before, cause, after, unknown, rfl, rfl, unknown.explains⟩
    · rintro ⟨before, cause, after, unknown, place, file, explains⟩
      refine ⟨before, cause, after, unknown, ?_⟩
      obtain ⟨given, position, name⟩ := diagnostic
      cases place
      cases file
      cases explains_cause source before cause given explains
      rfl

end LexicalScan
