import CelWatch.Lsp.Publication

/-!
The publications of one round after another. Which documents had diagnostics
in the last round is all that is remembered.
-/

namespace CelWatch.Lsp

structure Feed where
  /-- The documents that had diagnostics in the last round. -/
  remembered : List Uri
deriving DecidableEq, Repr, Inhabited

namespace Feed

def initial : Feed := ⟨[]⟩

/-- The publications of a round, and the feed after it. -/
def next (feed : Feed) (diagnostics : List CelWatch.Diagnostic) : List Publication × Feed :=
  (planPublications feed.remembered diagnostics, ⟨documentsOf diagnostics⟩)

/-- The publications of several rounds. -/
def nextAll (feed : Feed) : List (List CelWatch.Diagnostic) → List Publication × Feed
  | [] => ([], feed)
  | diagnostics :: rest =>
    let (publications, after) := feed.next diagnostics
    let (later, last) := after.nextAll rest
    (publications ++ later, last)

end Feed

end CelWatch.Lsp
