import CelWatch.Text.Position
import CelWatch.Uri.Basic

/-!
Issues, as an engine reports them, and diagnostics, which are issues attached
to a document.
-/

namespace CelWatch

inductive Severity where
  | error
  | warning
  | information
  | hint
deriving DecidableEq, Repr, Inhabited

/-- The word for a severity. -/
def Severity.word : Severity → String
  | .error => "error"
  | .warning => "warning"
  | .information => "info"
  | .hint => "hint"

/-- A positioned issue that belongs to no document yet. -/
structure Issue where
  start : Position
  /-- Where the offending text ends, when the engine knows it. -/
  stop : Option Position
  severity : Severity
  code : Option String
  message : String
deriving DecidableEq, Repr, Inhabited

/-- An error at a place, without an end and without a code. -/
def Issue.error (start : Position) (message : String) : Issue :=
  ⟨start, none, .error, none, message⟩

/-- An issue of a document. -/
structure Diagnostic where
  uri : Uri
  /-- The path that the engine was given. -/
  path : FilePath
  /-- Name of the tool that reported the issue. -/
  source : String
  start : Position
  stop : Option Position
  severity : Severity
  code : Option String
  message : String
deriving DecidableEq, Repr

/-- Attaches an issue to a document. -/
def Issue.attach (issue : Issue) (uri : Uri) (path : FilePath) (source : String) : Diagnostic where
  uri := uri
  path := path
  source := source
  start := issue.start
  stop := issue.stop
  severity := issue.severity
  code := issue.code
  message := issue.message

end CelWatch
