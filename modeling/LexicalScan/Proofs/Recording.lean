import Mathlib.Algebra.GroupWithZero.Nat
import LexicalScan.Journal
import LexicalScan.Proofs.Coverage
import LexicalScan.Proofs.Offsets
import LexicalScan.Proofs.TokenReading

/-!
The journal of a scan against its tokens. Each item that is taken leaves one note: a piece leaves itself,
and the end token leaves the place of the cursor, which stands behind all of the source by then. So the
notes of a scan are its tokens over again, behind a note of the size of the source, and that is the sum
of the sizes of the pieces.
-/

namespace LexicalScan

open Recognition

namespace Text

theorem byteCount_flatMap {Item : Type} (value : Item → Text) (items : List Item) :
    byteCount (items.flatMap value) = (items.map fun item => byteCount (value item)).sum := by
  induction items with
  | nil => rfl
  | cons item later ih =>
      rw [List.flatMap_cons, byteCount_append, ih, List.map_cons, List.sum_cons]

end Text

namespace Note

def ofItem (ending : Position) (token : Token) : Note :=
  if token.isEnd then ended ending else cut token

theorem map_ofItem (ending : Position) (pieces : List Token)
    (notEnd : ∀ token ∈ pieces, token.isEnd = false) :
    (pieces ++ [Token.endOfInput]).map (ofItem ending) = pieces.map cut ++ [ended ending] := by
  have cuts : pieces.map (ofItem ending) = pieces.map cut := by
    apply List.map_congr_left
    intro token member
    rw [ofItem, notEnd token member]
    rfl
  rw [List.map_append, cuts]
  rfl

theorem text_begun (bytes : Nat) :
    (begun bytes).text =
      "DEBUG lexer created over ".toList ++ Text.decimal bytes ++ " bytes".toList := rfl

theorem text_cut (token : Token) : (cut token).text = "TRACE ".toList ++ token.text := rfl

theorem text_ended (position : Position) :
    (ended position).text = "DEBUG lexer exhausted at ".toList ++
      (Text.decimal position.row ++ [':'] ++ Text.decimal position.col) := rfl

theorem newline_notMem_text (note : Note) : '\n' ∉ note.text := by
  have unbroken (number : Nat) := Text.notMem_decimal number '\n' rfl
  cases note with
  | begun bytes => simp [text_begun, unbroken]
  | cut token => simp [text_cut, token.newline_notMem_text]
  | ended position => simp [text_ended, unbroken]

end Note

namespace Scanner

open Position

theorem recordBehind_none (scanner : Scanner) (taken : List Token) (notes : List Note)
    (stopped : scanner.pull? = none) :
    scanner.recordBehind taken notes = (taken.reverse, notes.reverse) := by
  rw [recordBehind]
  split
  · rfl
  · rename_i pulled
    rw [stopped] at pulled
    cases pulled

theorem recordBehind_some (scanner next : Scanner) (token : Token) (taken : List Token)
    (notes : List Note) (pulled : scanner.pull? = some (token, next)) :
    scanner.recordBehind taken notes =
      next.recordBehind (token :: taken) (scanner.pullNote?.toList ++ notes) := by
  rw [recordBehind]
  split
  · rename_i stopped
    rw [pulled] at stopped
    cases stopped
  · rename_i same
    rw [pulled] at same
    cases same
    rfl

/-- A pull leaves a note exactly if it takes an item, and then the note of the item. Where the stream
ends, the cursor stands behind all of the source. -/
theorem pullNote?_eq (source consumed : Text) (scanner : Scanner)
    (tracks : Tracks source consumed scanner) :
    scanner.pullNote? =
      scanner.pull?.map fun taken => Note.ofItem (behind source) taken.1 := by
  cases pulled : scanner.pull? with
  | none =>
      rw [pullNote?, (pull?_eq_none_iff scanner).mp pulled]
      rfl
  | some found =>
      obtain ⟨token, next⟩ := found
      obtain ⟨scanning, stepped | ⟨used, rfl, _⟩⟩ := pull?_cases scanner next token pulled
      · have notEnd := (step?_stepped scanner next token stepped).isEnd
        rw [pullNote?, scanning, stepped, Option.map_some, Note.ofItem, notEnd]
        rfl
      · have consumedAll : source = consumed := by
          rw [tracks.1, used, List.append_nil]
        rw [pullNote?, scanning, step?_atEnd scanner used, consumedAll, ← tracks.2]
        rfl

/-- A scanner that stands anywhere in a source gives the items that are left and leaves one note of
each, in the order of the items. -/
theorem recordBehind_exact (source : Text) (scanner : Scanner) :
    ∀ consumed, Tracks source consumed scanner → ∀ taken notes,
      scanner.recordBehind taken notes =
        (taken.reverse ++ scanner.items,
          notes.reverse ++ scanner.items.map (Note.ofItem (behind source))) := by
  -- What is given is generalised, since each pull puts an item and a note in front of it.
  induction scanner using pull_induction precedence with
  | stopped scanner stopped =>
      intro consumed _ taken notes
      rw [recordBehind_none scanner taken notes stopped, items_none scanner stopped]
      simp
  | pulled scanner next token pulled ih =>
      intro consumed tracks taken notes
      obtain ⟨further, tracksNext⟩ := tracks_pull source consumed scanner next token tracks pulled
      have noted := pullNote?_eq source consumed scanner tracks
      rw [pull?, pulled, Option.map_some] at noted
      rw [recordBehind_some scanner next token taken notes pulled, ih further tracksNext, noted,
        items_some scanner next token pulled]
      simp

end Scanner

theorem Covers.filter_pieces {pieces : List Token} {text : Text} (covers : Covers pieces text) :
    (pieces ++ [Token.endOfInput]).filter (fun token => !token.isEnd) = pieces := by
  have kept : ∀ token ∈ pieces, (!token.isEnd) = true := by
    intro token member
    rw [covers.notEnd token member]
    rfl
  rw [List.filter_append, List.filter_eq_self.mpr kept]
  exact List.append_nil pieces

theorem record_eq (source : Text) :
    record source =
      (tokens source, .begun (Text.byteCount source) ::
        (tokens source).map (Note.ofItem (Position.behind source))) :=
  Scanner.recordBehind_exact source (Scanner.ofText source) [] (Scanner.tracks_ofText source) []
    [.begun (Text.byteCount source)]

/-- The journal tells what the scan gives. It has a note of the bytes in all pieces together, one of each
piece in order, which shows the text of the token, and one of the place behind the source, each on a
line of its own. -/
theorem record_tells_tokens (source : Text) :
    let pieces := (tokens source).filter fun token => !token.isEnd
    let bytes := (pieces.map fun token => (String.ofList token.value).utf8ByteSize).sum
    let ending := Position.behind source
    (record source).1 = tokens source ∧
      (record source).2 = .begun bytes :: (pieces.map .cut ++ [.ended ending]) ∧
      (record source).2.map Note.text =
        ("DEBUG lexer created over ".toList ++ Text.decimal bytes ++ " bytes".toList) ::
          (pieces.map (fun token => "TRACE ".toList ++ token.text) ++
            ["DEBUG lexer exhausted at ".toList ++
              (Text.decimal ending.row ++ [':'] ++ Text.decimal ending.col)]) ∧
      ∀ note ∈ (record source).2, '\n' ∉ note.text := by
  intro pieces bytes ending
  obtain ⟨covering, all, covers⟩ := tokens_cover source
  have only : pieces = covering := by
    simp only [pieces]
    rw [all, covers.filter_pieces]
  have size : Text.byteCount source = bytes := by
    simp only [bytes]
    rw [only, ← covers.joined, Text.byteCount_flatMap]
    simp only [Text.byteCount_eq]
  have notes : (record source).2 = .begun bytes :: (pieces.map .cut ++ [.ended ending]) := by
    rw [record_eq, size, only, all, Note.map_ofItem ending covering covers.notEnd]
  refine ⟨congrArg Prod.fst (record_eq source), notes, ?_, fun note _ => note.newline_notMem_text⟩
  rw [notes, List.map_cons, List.map_append, List.map_map]
  simp only [Note.text_begun, Note.text_ended, Note.text_cut, Function.comp_def, List.map_cons,
    List.map_nil]

/-- Sizes count bytes and places count characters. -/
example : (record ['é', '\n', '1']).2 =
    [.begun 4, .cut ⟨.unknown, ['é'], some ⟨1, 1⟩⟩, .cut ⟨.blank, ['\n'], some ⟨1, 2⟩⟩,
      .cut ⟨.number, ['1'], some ⟨2, 1⟩⟩, .ended ⟨2, 2⟩] := by
  decide +kernel

end LexicalScan
