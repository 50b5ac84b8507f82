import LexicalScan.Proofs.Cursor

/-!
The place of a scanner in the bytes of its source. The bytes in front of the text that is left are the
bytes of the pieces that were cut, so the place lies between two characters, and it is the end of the
source only if no text is left.
-/

namespace LexicalScan

namespace Text

theorem byteCount_eq (text : Text) : byteCount text = (String.ofList text).utf8ByteSize := by
  induction text with
  | nil => rfl
  | cons c rest ih =>
      rw [String.ofList_cons, String.utf8ByteSize_append, String.utf8ByteSize_singleton, ← ih]
      rfl

theorem byteCount_append (text rest : Text) :
    byteCount (text ++ rest) = byteCount text + byteCount rest := by
  rw [byteCount_eq, byteCount_eq, byteCount_eq, String.ofList_append, String.utf8ByteSize_append]

theorem byteCount_eq_zero_iff (text : Text) : byteCount text = 0 ↔ text = [] := by
  cases text with
  | nil => exact iff_of_true rfl rfl
  | cons c rest =>
      have positive := c.utf8Size_pos
      have counted : byteCount (c :: rest) = c.utf8Size + byteCount rest := rfl
      simp only [List.cons_ne_nil, iff_false]
      omega

end Text

namespace Scanner

def offset (scanner : Scanner) : Nat :=
  Text.byteCount scanner.source - Text.byteCount scanner.rest

theorem offset_eq (consumed : Text) (scanner : Scanner)
    (split : scanner.source = consumed ++ scanner.rest) :
    scanner.offset = Text.byteCount consumed := by
  rw [offset, split, Text.byteCount_append, Nat.add_sub_cancel]

theorem offset_step (consumed : Text) (scanner next : Scanner) (token : Token)
    (split : scanner.source = consumed ++ scanner.rest)
    (stepped : scanner.step? = some (token, next)) :
    next.offset = scanner.offset + Text.byteCount token.value := by
  have facts := step?_stepped scanner next token stepped
  have further : next.source = (consumed ++ token.value) ++ next.rest := by
    rw [facts.source, split, facts.rest, List.append_assoc]
  rw [offset_eq _ next further, offset_eq consumed scanner split, Text.byteCount_append]

theorem atEnd_iff (consumed : Text) (scanner : Scanner)
    (split : scanner.source = consumed ++ scanner.rest) :
    scanner.atEnd = true ↔ Text.byteCount scanner.source ≤ scanner.offset := by
  have total := congrArg Text.byteCount split
  rw [Text.byteCount_append] at total
  rw [atEnd, List.isEmpty_iff, ← Text.byteCount_eq_zero_iff, offset_eq consumed scanner split]
  omega

/-- Behind any calls the offset is a place between two characters of the source and the text that is
left stands behind it. A step moves it by the bytes of its piece, and it is the end of the source exactly
if no text is left. -/
theorem perform_offset (source : Text) (calls : List Call) :
    let scanner := ((ofText source).perform calls).2
    (∃ (place : (String.ofList source).Pos) (consumed : Text),
      place.offset.byteIdx = scanner.offset ∧
        place.Splits (String.ofList consumed) (String.ofList scanner.rest)) ∧
      (∀ token next, scanner.step? = some (token, next) →
        next.offset = scanner.offset + Text.byteCount token.value) ∧
      (scanner.atEnd = true ↔ Text.byteCount source ≤ scanner.offset) := by
  intro scanner
  obtain ⟨consumed, tracks⟩ := perform_tracks source calls
  have same : scanner.source = source := perform_source source calls
  have split : scanner.source = consumed ++ scanner.rest := same.trans tracks.1
  have joined : String.ofList source = String.ofList consumed ++ String.ofList scanner.rest := by
    rw [← String.ofList_append, ← split, same]
  have boundary : (String.ofList consumed).rawEndPos.IsValid (String.ofList source) :=
    String.Pos.Raw.isValid_iff_exists_append.mpr ⟨_, _, joined, rfl⟩
  have placed : scanner.offset = (String.ofList consumed).utf8ByteSize := by
    rw [offset_eq consumed scanner split, Text.byteCount_eq]
  refine ⟨⟨⟨_, boundary⟩, consumed, placed.symm, joined, rfl⟩, ?_, ?_⟩
  · intro token next
    exact offset_step consumed scanner next token split
  · have ended := atEnd_iff consumed scanner split
    rwa [same] at ended

end Scanner

end LexicalScan
