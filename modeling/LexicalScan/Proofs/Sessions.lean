import LexicalScan.Session
import LexicalScan.Proofs.Cursor

/-!
Sessions of any requests. Both scanners of a session are scanners of its source that some calls drove, so
what holds behind any calls holds of them. The saved scanner stays as it is until another is saved, and
going back to it takes back all that was done since.
-/

namespace LexicalScan

namespace Scanner

def Driven (source : Text) (scanner : Scanner) : Prop :=
  ∃ calls, ((ofText source).perform calls).2 = scanner

theorem driven_ofText (source : Text) : Driven source (ofText source) := ⟨[], rfl⟩

theorem perform_concat (scanner : Scanner) (calls : List Call) (call : Call) :
    (scanner.perform (calls ++ [call])).2 = ((scanner.perform calls).2.answer call).2 := by
  induction calls generalizing scanner with
  | nil => rfl
  | cons first later ih => exact ih (scanner.answer first).2

theorem driven_answer (source : Text) (scanner : Scanner) (call : Call)
    (driven : Driven source scanner) : Driven source (scanner.answer call).2 := by
  obtain ⟨calls, rfl⟩ := driven
  exact ⟨calls ++ [call], perform_concat _ calls call⟩

theorem driven_source (source : Text) (scanner : Scanner) (driven : Driven source scanner) :
    scanner.source = source := by
  obtain ⟨calls, rfl⟩ := driven
  exact perform_source source calls

theorem driven_rest (source : Text) (scanner : Scanner) (driven : Driven source scanner) :
    scanner.rest <:+ source := by
  obtain ⟨calls, rfl⟩ := driven
  obtain ⟨consumed, split, _⟩ := perform_tracks source calls
  exact ⟨consumed, split.symm⟩

theorem driven_answer_tokens (source : Text) (scanner : Scanner) (call : Call)
    (driven : Driven source scanner) :
    ∀ token ∈ (scanner.answer call).1.tokens, token ∈ tokens source := by
  obtain ⟨calls, rfl⟩ := driven
  have start := settled_ofText source
  have settled : Settled ((ofText source).perform calls).2 :=
    perform_keeps settled_step settled_pull (ofText source) start calls
  have left := (perform_exact (ofText source) start calls).2
  intro token shown
  rw [(answer_served _ settled call).reply] at shown
  have later := Call.mem_of_reply _ call token shown
  change token ∈ (ofText source).items
  rw [left]
  exact List.mem_append_right _ later

end Scanner

namespace Session

open Scanner

structure Over (source : Text) (session : Session) : Prop where
  current : Driven source session.current
  saved : Driven source session.saved

theorem over_ofText (source : Text) : Over source (ofText source) :=
  ⟨driven_ofText source, driven_ofText source⟩

theorem reset_current (source : Text) (session : Session) (held : Over source session) :
    (session.perform .reset).2.current = Scanner.ofText source := by
  have same := driven_source source session.current held.current
  rw [perform, same]

theorem over_perform (source : Text) (session : Session) (request : Request)
    (held : Over source session) : Over source (session.perform request).2 := by
  cases request with
  | call call => exact ⟨driven_answer source session.current call held.current, held.saved⟩
  | rest => exact held
  | source => exact held
  | save => exact ⟨held.current, held.current⟩
  | restore => exact ⟨held.saved, held.saved⟩
  | reset =>
      constructor
      · rw [reset_current source session held]
        exact driven_ofText source
      · exact held.saved

/-- What a reply may show of a source: its tokens and the ends of its text. -/
def Shows (source : Text) : Reply → Prop
  | .answer given => ∀ token ∈ given.tokens, token ∈ tokens source
  | .text text => text <:+ source
  | .done => True

theorem shows_perform (source : Text) (session : Session) (request : Request)
    (held : Over source session) : Shows source (session.perform request).1 := by
  cases request with
  | call call => exact driven_answer_tokens source session.current call held.current
  | rest => exact driven_rest source session.current held.current
  | source => exact ⟨[], driven_source source session.current held.current⟩
  | save => trivial
  | restore => trivial
  | reset => trivial

def serve : Session → List Request → List Reply × Session
  | session, [] => ([], session)
  | session, request :: later =>
    let served := session.perform request
    let rest := serve served.2 later
    (served.1 :: rest.1, rest.2)

theorem serve_append (session : Session) (first later : List Request) :
    session.serve (first ++ later) =
      ((session.serve first).1 ++ ((session.serve first).2.serve later).1,
        ((session.serve first).2.serve later).2) := by
  induction first generalizing session with
  | nil => rfl
  | cons request first ih => simp only [List.cons_append, serve, ih]

theorem serve_over (source : Text) (session : Session) (requests : List Request)
    (held : Over source session) :
    Over source (session.serve requests).2 ∧
      ∀ reply ∈ (session.serve requests).1, Shows source reply := by
  induction requests generalizing session with
  | nil => exact ⟨held, nofun⟩
  | cons request later ih =>
      obtain ⟨kept, shown⟩ := ih _ (over_perform source session request held)
      refine ⟨kept, List.forall_mem_cons.mpr ⟨?_, shown⟩⟩
      exact shows_perform source session request held

/-- Whatever is requested, a session over a source shows nothing else. -/
theorem serve_shows (source : Text) (requests : List Request) :
    ∀ reply ∈ ((ofText source).serve requests).1, Shows source reply :=
  (serve_over source _ requests (over_ofText source)).2

theorem saved_perform (session : Session) (request : Request) (unsaved : request ≠ .save) :
    (session.perform request).2.saved = session.saved := by
  cases request with
  | save => exact absurd rfl unsaved
  | call | rest | source | restore | reset => rfl

theorem saved_serve (session : Session) (requests : List Request)
    (unsaved : Request.save ∉ requests) :
    (session.serve requests).2.saved = session.saved := by
  induction requests generalizing session with
  | nil => rfl
  | cons request later ih =>
      obtain ⟨first, others⟩ := List.ne_and_not_mem_of_not_mem_cons unsaved
      have kept := saved_perform session request (Ne.symm first)
      exact (ih _ others).trans kept

/-- Going back takes back all that was done since the scanner was saved: later requests are answered as
if nothing had come between. -/
theorem serve_restored (session : Session) (between later : List Request)
    (unsaved : Request.save ∉ between) :
    let kept : Session := ⟨session.current, session.current⟩
    session.serve (.save :: (between ++ .restore :: later)) =
      (.done :: ((kept.serve between).1 ++ .done :: (kept.serve later).1),
        (kept.serve later).2) := by
  intro kept
  have saved : (kept.serve between).2.saved = session.current := saved_serve kept between unsaved
  have back : (kept.serve between).2.perform .restore = (.done, kept) := by
    rw [perform, saved]
  have between_eq := serve_append kept between (.restore :: later)
  rw [serve, back] at between_eq
  rw [serve]
  simp only [perform]
  rw [between_eq]

end Session

end LexicalScan
