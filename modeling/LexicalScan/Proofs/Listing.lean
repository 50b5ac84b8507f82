import LexicalScan.Proofs.Coverage
import LexicalScan.Proofs.LineLookup
import LexicalScan.Proofs.Outcomes
import LexicalScan.Proofs.TokenReading

/-!
Reading back what a run prints. No text of a token holds a newline, so the newlines of a listing are the
ends of its lines and each line is the text of one token. The values of the tokens make the source
again, and the bytes of a file are the only ones that decode to it.
-/

namespace LexicalScan

theorem decodeText_eq_ok_iff (content : ByteArray) (source : Text) :
    decodeText content = .ok source ↔ content = (String.ofList source).toUTF8 := by
  constructor
  · intro decoded
    unfold decodeText String.fromUTF8? at decoded
    split at decoded
    · cases decoded
    · rename_i found
      split at found
      · cases found
        cases decoded
        rw [String.ofList_toList]
        rfl
      · cases found
  · rintro rfl
    have decoded : String.fromUTF8? (String.ofList source).toUTF8 = some (String.ofList source) :=
      dif_pos (String.ofList source).isValidUTF8
    simp only [decodeText, decoded, String.toList_ofList]

namespace CommandLine

open Invocation

theorem listing_eq (tokens : List Token) :
    listing tokens = (tokens.map Token.text).flatMap fun line => line ++ ['\n'] := by
  rw [listing, List.flatMap_map]

theorem splitOn_listing (tokens : List Token) :
    (listing tokens).splitOn '\n' = tokens.map Token.text ++ [[]] := by
  rw [listing_eq]
  apply Lines.splitOn_ended
  intro line member
  obtain ⟨token, _, rfl⟩ := List.mem_map.mp member
  exact token.newline_notMem_text

def listed? (output : Text) : Option (List Token) :=
  (output.splitOn '\n').dropLast.mapM Token.ofText?

theorem listed?_listing (tokens : List Token) : listed? (listing tokens) = some tokens := by
  rw [listed?, splitOn_listing, List.dropLast_concat]
  induction tokens with
  | nil => rfl
  | cons token later ih => simp [ih, Token.ofText?_text]

def listedSource? (output : Text) : Option Text :=
  (listed? output).map fun tokens => tokens.dropLast.flatMap Token.value

theorem listedSource?_listing (source : Text) :
    listedSource? (listing (tokens source)) = some source := by
  obtain ⟨pieces, all, covers⟩ := tokens_cover source
  rw [listedSource?, listed?_listing, all, Option.map_some, List.dropLast_concat, covers.joined]

theorem listing_tokens_ne_nil (source : Text) : listing (tokens source) ≠ [] := by
  obtain ⟨pieces, all, _⟩ := tokens_cover source
  simp [all, listing]

theorem listing_tokens_injective (source other : Text)
    (same : listing (tokens source) = listing (tokens other)) : source = other := by
  have read := listedSource?_listing source
  rw [same, listedSource?_listing other] at read
  exact (Option.some.inj read).symm

variable (read : Text → Except ReadFailure Text) (path : Text) (content : ByteArray)

theorem run_file (source : Text) (plain : path ≠ strictFlag)
    (held : read path = decodeText content) (readable : decodeText content = .ok source) :
    run read [path] = .ok (success (listing (tokens source))) := by
  have given : paths [path] = [path] := paths_cons path [] plain
  have reads : Reads read (paths [path]) source (Input.fileName path) := by
    rw [given]
    exact .file (held.trans readable) (lastName_fileName path)
  have ran := run_plain read [path] source _ reads
  rwa [given] at ran

theorem run_file_output (outcome : Outcome) (plain : path ≠ strictFlag)
    (held : read path = decodeText content) (ran : run read [path] = .ok outcome)
    (printed : outcome.output ≠ []) :
    ∃ source, decodeText content = .ok source ∧ outcome.output = listing (tokens source) := by
  have given : paths [path] = [path] := paths_cons path [] plain
  rcases run_cases read [path] outcome ran with
    ⟨_, rfl⟩ | ⟨_, _, rfl⟩ | ⟨source, name, reads, rfl⟩
  · exact absurd rfl printed
  · exact absurd rfl printed
  · rw [given] at reads
    cases reads with
    | file readable _ => exact ⟨source, held.symm.trans readable, rfl⟩

/-- What a run over a file prints is the texts of its tokens, each with a newline behind it, and the
newlines part it into these texts. The tokens are read back from it, and from them the source. No file
with other bytes, wherever it is held, makes a run print the same. -/
theorem run_read_back (source : Text) (plain : path ≠ strictFlag)
    (held : read path = decodeText content) (readable : decodeText content = .ok source) :
    ∃ output,
      run read [path] = .ok ⟨0, output, []⟩ ∧
      output.splitOn '\n' = (tokens source).map Token.text ++ [[]] ∧
      listed? output = some (tokens source) ∧
      listedSource? output = some source ∧
      ∀ (readOther : Text → Except ReadFailure Text) (elsewhere : Text) (other : ByteArray)
        (outcome : Outcome),
        elsewhere ≠ strictFlag → readOther elsewhere = decodeText other →
        run readOther [elsewhere] = .ok outcome → outcome.output = output → other = content := by
  refine ⟨listing (tokens source), run_file read path content source plain held readable,
    splitOn_listing (tokens source), listed?_listing (tokens source), listedSource?_listing source, ?_⟩
  intro readOther elsewhere other outcome plainOther heldOther ran same
  have printed : outcome.output ≠ [] := by
    rw [same]
    exact listing_tokens_ne_nil source
  obtain ⟨otherSource, readableOther, lists⟩ :=
    run_file_output readOther elsewhere other outcome plainOther heldOther ran printed
  have sameSource := listing_tokens_injective otherSource source (lists.symm.trans same)
  subst otherSource
  rw [(decodeText_eq_ok_iff other source).mp readableOther,
    (decodeText_eq_ok_iff content source).mp readable]

/-- A string that runs over two lines and looks like the text around it. -/
theorem run_read_back_string_over_lines :
    let path := "a".toList
    let source := "x '\\\"]\t(1, 2)\n\x01Str\t[\"'".toList
    let content := (String.ofList source).toUTF8
    let files := Files.ofList [(path, content)]
    path ≠ strictFlag ∧ files.read path = decodeText content ∧ decodeText content = .ok source ∧
      ∃ output, run files.read [path] = .ok ⟨0, output, []⟩ ∧
        output.splitOn '\n' = (tokens source).map Token.text ++ [[]] ∧
        listed? output = some (tokens source) ∧ listedSource? output = some source := by
  intro path source content files
  have plain : path ≠ strictFlag := by decide
  have held : files.read path = decodeText content := rfl
  have readable : decodeText content = .ok source := (decodeText_eq_ok_iff content source).mpr rfl
  obtain ⟨output, ran, lines, listed, back, _⟩ :=
    run_read_back files.read path content source plain held readable
  exact ⟨plain, held, readable, output, ran, lines, listed, back⟩

end CommandLine

end LexicalScan
