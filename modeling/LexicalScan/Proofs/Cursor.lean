import LexicalScan.Proofs.Answers
import LexicalScan.Proofs.Openings

/-!
The cursor against the text that was cut off. A step looks for newlines only in blanks and strings and
otherwise counts characters along the row. That is enough, since no other piece can hold a newline, so
the cursor always stands where the text that is left begins.
-/

namespace LexicalScan

open Recognition

namespace Position

/-- The place behind some text: a row for each newline, and a column for each character of the last
line. -/
def behind (consumed : Text) : Position :=
  ⟨1 + consumed.count '\n', 1 + (consumed.reverse.takeWhile (· != '\n')).length⟩

theorem behind_along (consumed value : Text) (noNewline : '\n' ∉ value) :
    behind (consumed ++ value) = (behind consumed).along value.length := by
  have reversed : '\n' ∉ value.reverse := by simpa using noNewline
  have column := Text.takeWhile_unmarked value.reverse consumed.reverse reversed
  simp only [behind, along, List.reverse_append, column, List.count_append, List.length_append,
    List.length_reverse, List.count_eq_zero_of_not_mem noNewline, Nat.add_zero]
  congr 1
  omega

/-- Text with a newline sets the column anew, wherever it begins. -/
theorem behind_newline (consumed value : Text) (newline : '\n' ∈ value) :
    behind (consumed ++ value) =
      ⟨(behind consumed).row + value.count '\n', (Text.lastLine value).length + 1⟩ := by
  have column := Text.takeWhile_marked value.reverse consumed.reverse (List.mem_reverse.mpr newline)
  simp only [behind, Text.lastLine, List.reverse_append, column, List.count_append,
    List.length_reverse, Position.mk.injEq]
  omega

end Position

namespace Recognition

open Alphabet Grammar

theorem lineBreak_notMem (kind : Kind) (value : Text) (valid : Language kind value)
    (onLine : kind.maySpanLines = false) (c : Char) (breaks : isLineBreak c = true) :
    c ∉ value := by
  intro member
  have held := mayHold_of_language kind value valid c member
  rw [isLineBreak, Bool.or_eq_true, beq_iff_eq, beq_iff_eq] at breaks
  revert held onLine
  rcases breaks with rfl | rfl <;> cases kind <;> decide

theorem newline_notMem (kind : Kind) (value : Text) (valid : Language kind value)
    (onLine : kind.maySpanLines = false) : '\n' ∉ value :=
  lineBreak_notMem kind value valid onLine '\n' rfl

/-- The fallback stays on its line too, since a newline begins a blank. -/
theorem newline_notMem_classify (kind : Kind) (value rest : Text)
    (classified : classify (value ++ rest) = (kind, value.length))
    (onLine : kind.maySpanLines = false) : '\n' ∉ value := by
  have policy := firstLongest_of_classifyBy precedence kind value rest classified
  cases policy with
  | known _ _ _ longest => exact newline_notMem kind value longest.inside onLine
  | @unknown c behind absent split =>
      intro member
      cases List.mem_singleton.mp member
      apply absent .blank (by decide)
      refine ⟨['\n'], List.cons_ne_nil _ _, List.prefix_append _ rest, List.cons_ne_nil _ _, ?_⟩
      simp [isBlank, blanks]

end Recognition

namespace Scanner

open Position

/-- The place behind a piece, as it is reckoned from the piece alone, is the place behind all the
text up to there. -/
theorem placeBehind_behind (consumed value rest : Text) (kind : Kind)
    (classified : classify (value ++ rest) = (kind, value.length)) :
    placeBehind (behind consumed) kind value = behind (consumed ++ value) := by
  -- A newline in a piece of another kind would be missed, but there is none.
  by_cases newline : '\n' ∈ value
  · have spans : kind.maySpanLines = true := by
      apply Bool.of_not_eq_false
      intro onLine
      exact newline_notMem_classify kind value rest classified onLine newline
    have found : value.contains '\n' = true := List.contains_iff_mem.mpr newline
    rw [behind_newline consumed value newline, placeBehind, spans, found]
    rfl
  · have absent : value.contains '\n' = false := by
      simpa using newline
    rw [behind_along consumed value newline, placeBehind, absent, Bool.and_false]
    rfl

def Tracks (source consumed : Text) (scanner : Scanner) : Prop :=
  source = consumed ++ scanner.rest ∧ scanner.cursor = behind consumed

theorem tracks_ofText (source : Text) : Tracks source [] (ofText source) := ⟨rfl, rfl⟩

theorem tracks_step (source consumed : Text) (scanner next : Scanner) (token : Token)
    (tracks : Tracks source consumed scanner)
    (stepped : scanner.step? = some (token, next)) :
    Tracks source (consumed ++ token.value) next := by
  obtain ⟨split, placed⟩ := tracks
  have facts := step?_stepped scanner next token stepped
  have classified := facts.classified
  rw [facts.rest] at split classified
  constructor
  · rw [List.append_assoc]
    exact split
  · rw [facts.cursor, placed]
    exact placeBehind_behind consumed token.value next.rest token.kind classified

theorem tracks_pull (source consumed : Text) (scanner next : Scanner) (token : Token)
    (tracks : Tracks source consumed scanner)
    (pulled : scanner.pull? = some (token, next)) :
    ∃ further, Tracks source further next := by
  obtain ⟨_, stepped | ⟨_, _, rfl⟩⟩ := pull?_cases scanner next token pulled
  · exact ⟨_, tracks_step source consumed scanner next token tracks stepped⟩
  · exact ⟨consumed, tracks⟩

theorem perform_tracks (source : Text) (calls : List Call) :
    ∃ consumed, Tracks source consumed ((ofText source).perform calls).2 := by
  let keeps (scanner : Scanner) : Prop := ∃ consumed, Tracks source consumed scanner
  have start : keeps (ofText source) := ⟨[], tracks_ofText source⟩
  refine perform_keeps ?_ ?_ (ofText source) start calls
  · rintro scanner next token ⟨consumed, tracks⟩ stepped
    exact ⟨_, tracks_step source consumed scanner next token tracks stepped⟩
  · rintro scanner next token ⟨consumed, tracks⟩ pulled
    exact tracks_pull source consumed scanner next token tracks pulled

theorem perform_source (source : Text) (calls : List Call) :
    ((ofText source).perform calls).2.source = source := by
  let keeps (scanner : Scanner) : Prop := scanner.source = source
  have start : keeps (ofText source) := rfl
  have steps : ∀ scanner next token, keeps scanner →
      scanner.step? = some (token, next) → keeps next := by
    intro scanner next token kept stepped
    exact (step?_stepped scanner next token stepped).source.trans kept
  refine perform_keeps steps ?_ (ofText source) start calls
  intro scanner next token kept pulled
  obtain ⟨_, stepped | ⟨_, _, rfl⟩⟩ := pull?_cases scanner next token pulled
  · exact steps scanner next token kept stepped
  · exact kept

/-- What the text in front of a token says of it. The end token stands behind all of the source. -/
structure Located (source before : Text) (token : Token) : Prop where
  place : token.position? = if token.isEnd then none else some (behind before)
  piece : token.isEnd = false → before ++ token.value <+: source
  ending : token.isEnd = true → before = source

theorem located_step (source consumed : Text) (scanner next : Scanner) (token : Token)
    (tracks : Tracks source consumed scanner)
    (stepped : scanner.step? = some (token, next)) : Located source consumed token := by
  have facts := step?_stepped scanner next token stepped
  have notEnd := facts.isEnd
  refine ⟨?_, ?_, ?_⟩
  · rw [notEnd, facts.place, tracks.2]
    rfl
  · intro _
    rw [tracks.1, facts.rest, ← List.append_assoc]
    exact List.prefix_append _ next.rest
  · intro isEnd
    rw [notEnd] at isEnd
    cases isEnd

theorem located_pull (source consumed : Text) (scanner next : Scanner) (token : Token)
    (tracks : Tracks source consumed scanner)
    (pulled : scanner.pull? = some (token, next)) : Located source consumed token := by
  obtain ⟨_, stepped | ⟨used, rfl, _⟩⟩ := pull?_cases scanner next token pulled
  · exact located_step source consumed scanner next token tracks stepped
  · refine ⟨rfl, ?_, ?_⟩
    · intro notEnd
      cases notEnd
    · intro _
      rw [tracks.1, used, List.append_nil]

theorem items_located (source : Text) (scanner : Scanner) :
    ∀ consumed, Tracks source consumed scanner →
      ∀ earlier token later, scanner.items = earlier ++ token :: later →
        Located source (consumed ++ earlier.flatMap Token.value) token := by
  induction scanner using pull_induction precedence with
  | stopped scanner stopped =>
      intro consumed _ earlier token later split
      rw [items_none scanner stopped] at split
      exact absurd split.symm (List.append_ne_nil_of_right_ne_nil earlier (List.cons_ne_nil _ _))
  | pulled scanner next pulledToken pulled ih =>
      intro consumed tracks earlier token later split
      rw [items_some scanner next pulledToken pulled] at split
      cases earlier with
      | nil =>
          obtain ⟨rfl, _⟩ := List.cons.inj split
          rw [List.flatMap_nil, List.append_nil]
          exact located_pull source consumed scanner next pulledToken tracks pulled
      | cons first earlier =>
          obtain ⟨rfl, behind⟩ := List.cons.inj split
          -- Behind the end token no item comes, so there the token does not exist.
          obtain ⟨_, stepped | ⟨_, _, rfl⟩⟩ := pull?_cases scanner next pulledToken pulled
          · have further := tracks_step source consumed scanner next pulledToken tracks stepped
            have located := ih _ further earlier token later behind
            rwa [List.append_assoc] at located
          · rw [items_exhausted _ rfl] at behind
            cases earlier <;> cases behind

end Scanner

def Answer.tokens : Answer → List Token
  | item token? => token?.toList
  | items tokens => tokens
  | number _ => []

theorem Call.mem_of_reply (left : List Token) (call : Call) (token : Token)
    (shown : token ∈ (call.reply left).tokens) : token ∈ left := by
  cases call with
  | step =>
      have found := Option.filter_eq_some_iff.mp (Option.mem_toList.mp shown)
      exact List.mem_of_head? found.1
  | pull => exact List.mem_of_head? (by simpa [reply, Answer.tokens] using shown)
  | skip dropped => exact List.mem_of_getElem? (by simpa [reply, Answer.tokens] using shown)
  | take limit => exact List.mem_of_mem_take shown
  | collect => exact shown
  | count => cases shown
  | last => exact List.mem_of_getLast? (by simpa [reply, Answer.tokens] using shown)

theorem Call.mem_of_replies (left : List Token) (calls : List Call) :
    ∀ answer ∈ replies left calls, ∀ token ∈ answer.tokens, token ∈ left := by
  induction calls generalizing left with
  | nil =>
      intro answer member
      cases member
  | cons call later ih =>
      intro answer member token shown
      rw [replies] at member
      rcases List.mem_cons.mp member with rfl | member
      · exact mem_of_reply left call token shown
      · exact List.mem_of_mem_drop (ih _ answer member token shown)

namespace Scanner

open Position

/-- The cursor of a scanner that was driven by any calls stands behind the text that is used up. The
next item bears that place, and so has every token of the source and every token in an answer the
place behind the text in front of it, but for the end token, which has none. -/
theorem perform_located (source : Text) (calls : List Call) :
    let served := (ofText source).perform calls
    (∃ consumed, source = consumed ++ served.2.rest ∧ served.2.cursor = behind consumed ∧
      ∀ token next, served.2.step? = some (token, next) ∨ served.2.pull? = some (token, next) →
        Located source consumed token) ∧
      (∀ earlier token later, tokens source = earlier ++ token :: later →
        Located source (earlier.flatMap Token.value) token) ∧
      ∀ answer ∈ served.1, ∀ token ∈ answer.tokens,
        ∃ earlier later, tokens source = earlier ++ token :: later := by
  intro served
  refine ⟨?_, ?_, ?_⟩
  · obtain ⟨consumed, tracks⟩ := perform_tracks source calls
    refine ⟨consumed, tracks.1, tracks.2, ?_⟩
    rintro token next (stepped | pulled)
    · exact located_step source consumed served.2 next token tracks stepped
    · exact located_pull source consumed served.2 next token tracks pulled
  · exact items_located source (ofText source) [] (tracks_ofText source)
  · intro answer member token shown
    rw [(perform_exact (ofText source) (settled_ofText source) calls).1] at member
    exact List.append_of_mem (Call.mem_of_replies _ calls answer member token shown)

end Scanner

end LexicalScan
