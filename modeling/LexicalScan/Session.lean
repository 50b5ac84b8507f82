import LexicalScan.Calls

/-!
A session holds a scanner and one saved copy of it, to which it can go back. It starts with a
scanner over a source, saved as it begins.
-/

namespace LexicalScan

structure Session where
  current : Scanner
  saved : Scanner
  deriving DecidableEq

inductive Request where
  | call (call : Call)
  /-- The text that is not yet cut. -/
  | rest
  | source
  | save
  | restore
  /-- Begin again over the same source. The saved copy stays. -/
  | reset
  deriving DecidableEq

inductive Reply where
  | answer (answer : Answer)
  | text (text : Text)
  | done
  deriving DecidableEq

namespace Session

def ofText (source : Text) : Session := ⟨.ofText source, .ofText source⟩

def perform (session : Session) : Request → Reply × Session
  | .call call =>
    let (answer, next) := session.current.answer call
    (.answer answer, { session with current := next })
  | .rest => (.text session.current.rest, session)
  | .source => (.text session.current.source, session)
  | .save => (.done, { session with saved := session.current })
  | .restore => (.done, { session with current := session.saved })
  | .reset => (.done, { session with current := .ofText session.current.source })

end Session

end LexicalScan
