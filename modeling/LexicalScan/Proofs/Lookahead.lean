import LexicalScan.Proofs.Refusal

/-!
How far the scanner looks ahead. Where a known piece ends is decided by the two characters behind it, and
by the first of them alone unless the piece is a number in front of a letter or a point. So what stands
behind an unknown character has no say in the pieces in front of it, and strict reading reports the same
character whatever the text behind it is.
-/

namespace LexicalScan

open Recognition Alphabet

namespace Position

theorem behind_stays (before more : Text) (stays : behind (before ++ more) = behind before) :
    more = [] := by
  by_cases newline : '\n' ∈ more
  · have below := List.count_pos_iff.mpr newline
    rw [behind_newline before more newline] at stays
    have sameRow := congrArg row stays
    simp only at sameRow
    omega
  · rw [behind_along before more newline] at stays
    have sameColumn := congrArg col stays
    simp only [along] at sameColumn
    exact List.length_eq_zero_iff.mp (by omega)

/-- A place in a text tells which text is in front of it. -/
theorem behind_inj {source before other : Text} (first : before <+: source)
    (second : other <+: source) (same : behind before = behind other) : before = other := by
  rcases List.prefix_or_prefix_of_prefix first second with ⟨more, rfl⟩ | ⟨more, rfl⟩
  · rw [behind_stays before more same.symm, List.append_nil]
  · rw [behind_stays other more same, List.append_nil]

end Position

namespace Recognition

theorem marks_cons_cons (first second : Char) (rest : Text) :
    Marks (first :: second :: rest) ↔ isRadixMark first = true ∧ isHexDigit second = true := by
  constructor
  · rintro ⟨mark, digit, tail, split, isMark, isDigit⟩
    cases split
    exact ⟨isMark, isDigit⟩
  · rintro ⟨isMark, isDigit⟩
    exact ⟨first, second, rest, rfl, isMark, isDigit⟩

theorem points_cons_cons (first second : Char) (rest : Text) :
    Points (first :: second :: rest) ↔ first = '.' ∧ isHexDigit second = true := by
  constructor
  · rintro ⟨digit, tail, split, isDigit⟩
    cases split
    exact ⟨rfl, isDigit⟩
  · rintro ⟨rfl, isDigit⟩
    exact ⟨second, rest, rfl, isDigit⟩

/-- Two characters decide whether a piece ends in front of them. -/
theorem ends_cons_cons (kind : Kind) (piece rest other : Text) (first second : Char) :
    Ends kind piece (first :: second :: rest) ↔ Ends kind piece (first :: second :: other) := by
  cases kind with
  | comment | blank | operator | symbol => simp only [Ends, stops_cons]
  | number =>
      simp only [Ends, numberEnds_iff, stops_cons, marks_cons_cons, points_cons_cons]
  | punctuation | string | unknown | endOfInput => exact Iff.rfl

/-- One character decides, unless it may be the mark of a base or the point of a number. -/
theorem ends_cons (kind : Kind) (piece rest other : Text) (c : Char) (noLetter : isLetter c = false)
    (noPoint : kind = .number → c ≠ '.') (ends : Ends kind piece (c :: rest)) :
    Ends kind piece (c :: other) := by
  cases kind with
  | comment | blank | operator | symbol =>
      simp only [Ends, stops_cons] at ends ⊢
      exact ends
  | number =>
      refine ⟨(stops_cons _ c other).mpr ((stops_cons _ c rest).mp ends.noDigit), ?_, ?_⟩
      · rintro _ ⟨mark, digit, tail, split, isMark, _⟩
        cases split
        rw [radixMark_letter c isMark] at noLetter
        cases noLetter
      · rintro _ ⟨digit, tail, split, _⟩
        cases split
        exact noPoint rfl rfl
  | punctuation | string | unknown | endOfInput => trivial

/-- A known piece does not look past a character that is no letter, and only a number that ends right
in front of a point looks past the point. -/
theorem heads_up_to (piece : Piece) (between rest other : Text) (c : Char)
    (known : piece.1 ≠ .unknown) (noLetter : isLetter c = false)
    (noPoint : piece.1 = .number → between = [] → c ≠ '.')
    (heads : Heads piece (between ++ c :: rest)) : Heads piece (between ++ c :: other) := by
  obtain ⟨kind, text⟩ := piece
  rw [heads_known_iff kind text _ known] at heads ⊢
  obtain ⟨valid, ends, order⟩ := heads
  refine ⟨valid, ?_, order⟩
  match between with
  | [] => exact ends_cons kind text rest other c noLetter (fun number => noPoint number rfl) ends
  | [first] => exact (ends_cons_cons kind text rest other first c).mp ends
  | first :: second :: between =>
      exact (ends_cons_cons kind text _ (between ++ c :: other) first second).mp ends

end Recognition

/-- Whether a point that is unknown stands right behind a number. -/
def PointBehindNumber (source before : Text) : Prop :=
  ∃ earlier number later, number.kind = .number ∧ tokens source =
    earlier ++ number :: ⟨.unknown, ['.'], some (Position.behind before)⟩ :: later

namespace FirstUnknown

variable {before after : Text} {cause : Char}

/-- The pieces in front of the character are taken in front of it whatever stands behind it. -/
theorem front_decided (unknown : FirstUnknown (before ++ cause :: after) before cause after)
    (noPoint : ¬ PointBehindNumber (before ++ cause :: after) before) :
    ∃ front, printed front = before ∧ (∀ piece ∈ front, piece.1 ≠ .unknown) ∧
      ∀ piece between, piece :: between <:+ front →
        ∀ other, Heads piece (printed between ++ cause :: other) := by
  obtain ⟨earlier, later, split, values, known⟩ := unknown.first
  obtain ⟨pieces, all, covers⟩ := tokens_cover (before ++ cause :: after)
  obtain ⟨_, rfl, _⟩ := pieces_behind pieces earlier later _ (all.symm.trans split) rfl
  refine ⟨earlier.map Token.piece, (printed_pieces earlier).trans values, ?_, ?_⟩
  · exact List.forall_mem_map.mpr known
  rintro piece between ⟨front, ended⟩ other
  obtain ⟨start, tail, rfl, rfl, mapped⟩ := List.map_eq_append_iff.mp ended.symm
  obtain ⟨token, between, rfl, rfl, rfl⟩ := List.map_eq_cons_iff.mp mapped
  rw [List.append_assoc, List.cons_append] at split
  obtain ⟨rest, heads, _⟩ := tokens_heads_later _ start between later token _ split
    (covers.notEnd token (by simp)) rfl
  rw [printed_pieces]
  apply heads_up_to token.piece _ rest other cause (known token (by simp))
    (unknown.unopened .symbol (by decide)) _ heads
  -- Each token between has some text, so there is none and the number ends at the point.
  rintro number atEnd rfl
  cases between with
  | nil => exact noPoint ⟨start, token, later, number, split⟩
  | cons next between =>
      have nonempty := covers.nonempty next (by simp)
      exact nonempty (List.append_eq_nil_iff.mp atEnd).1

theorem heads_anywhere (unknown : FirstUnknown (before ++ cause :: after) before cause after)
    (noQuote : isQuote cause = false) (other : Text) : Heads (.unknown, [cause]) other := by
  refine (heads_unknown_iff [cause] other).mpr ⟨cause, rfl, unknown.unopened, ?_⟩
  intro quoted
  rw [noQuote] at quoted
  cases quoted

theorem elsewhere (unknown : FirstUnknown (before ++ cause :: after) before cause after)
    (noQuote : isQuote cause = false)
    (noPoint : ¬ PointBehindNumber (before ++ cause :: after) before) (other : Text) :
    ∃ rest, FirstUnknown (before ++ cause :: other) before cause rest := by
  obtain ⟨front, rfl, known, decided⟩ := unknown.front_decided noPoint
  obtain ⟨lower, rfl, divides⟩ := exists_divides other
  have dividesCause : Divides ((.unknown, [cause]) :: lower) :=
    (divides_cons _ lower).mpr ⟨unknown.heads_anywhere noQuote (printed lower), divides⟩
  have whole := divides_append front _ dividesCause
    fun piece between suffix => decided piece between suffix (printed lower)
  have cut := (outline_printed_iff _).mpr whole
  rw [List.append_assoc, printed_append] at cut
  exact firstUnknown_of_outline _ front _ cause cut known

end FirstUnknown

theorem noQuote_of_unrecognised (c : Char) (token : Text)
    (reported : Cause.ofUnknown [c] = .unrecognised token) : isQuote c = false := by
  cases quoted : isQuote c with
  | false => rfl
  | true =>
      rw [Cause.ofUnknown, if_pos quoted] at reported
      cases reported

/-- If strict reading reports a character as unrecognised, it reports the same whatever stands behind
the character, unless that is a point right behind a number. -/
theorem strictTokens_up_to_cause (before after other token file : Text) (cause : Char)
    (file? : Option Text)
    (refused : strictTokens (before ++ cause :: after) file? =
      .error ⟨.unrecognised token, Position.behind before, file⟩)
    (noPoint : ¬ PointBehindNumber (before ++ cause :: after) before) :
    strictTokens (before ++ cause :: other) file? =
      .error ⟨.unrecognised token, Position.behind before, file⟩ := by
  obtain ⟨front, c, behind, unknown, same⟩ := (strictTokens_error_iff _ file? _).mp refused
  have inFront : front = before := by
    refine Position.behind_inj ?_ (List.prefix_append before (cause :: after))
      (congrArg Diagnostic.position same).symm
    rw [unknown.split]
    exact List.prefix_append front (c :: behind)
  subst front
  cases List.append_cancel_left unknown.split
  have noQuote := noQuote_of_unrecognised cause token (congrArg Diagnostic.cause same).symm
  obtain ⟨rest, again⟩ := unknown.elsewhere noQuote noPoint other
  rw [strictTokens_unknown _ before rest cause file? again, same]

/-- Right behind a number a point is unknown only until a digit follows it. -/
example : strictTokens ['1', '.'] none = .error ⟨.unrecognised ['.'], ⟨1, 2⟩, "shell".toList⟩ ∧
    strictTokens ['1', '.', '5'] none =
      .ok [⟨.number, ['1', '.', '5'], some ⟨1, 1⟩⟩, Token.endOfInput] := by
  constructor <;> cbv

/-- A point behind a string, in front of a digit and a quote that closes nothing. -/
theorem strictTokens_up_to_cause_behind_string :
    let before := "1.5//\"\r\n'\\''".toList
    let file? := some "a".toList
    let diagnostic : Diagnostic := ⟨.unrecognised ['.'], Position.behind before, "a".toList⟩
    strictTokens (before ++ ['.']) file? = .error diagnostic ∧
      ¬ PointBehindNumber (before ++ ['.']) before ∧ Position.behind before = ⟨2, 5⟩ ∧
      strictTokens (before ++ '.' :: "5'\"".toList) file? = .error diagnostic := by
  intro before file? diagnostic
  have refused : strictTokens (before ++ ['.']) file? = .error diagnostic :=
    strictTokens_complaint _ _ _ (by decide +kernel)
  have scanned : tokens (before ++ ['.']) = [⟨.number, "1.5".toList, some ⟨1, 1⟩⟩,
      ⟨.comment, "//\"".toList, some ⟨1, 4⟩⟩, ⟨.blank, "\r\n".toList, some ⟨1, 7⟩⟩,
      ⟨.string, "'\\''".toList, some ⟨2, 1⟩⟩, ⟨.unknown, ['.'], some ⟨2, 5⟩⟩,
      Token.endOfInput] := by
    decide +kernel
  have noPoint : ¬ PointBehindNumber (before ++ ['.']) before := by
    rintro ⟨earlier, number, later, kind, split⟩
    have apart : ∀ token ∈ tokens (before ++ ['.']), token.kind = .number →
        ¬ [token, ⟨.unknown, ['.'], some ⟨2, 5⟩⟩] <:+: tokens (before ++ ['.']) := by
      rw [scanned]
      decide
    apply apart number _ kind
    · refine ⟨earlier, later, ?_⟩
      rw [split, List.append_assoc]
      rfl
    · rw [split]
      simp
  exact ⟨refused, noPoint, rfl, strictTokens_up_to_cause before [] _ _ _ '.' file? refused noPoint⟩

end LexicalScan
