import CelWatch.Ascending
import CelWatch.Diagnostic
import CelWatch.Lsp.Range

/-!
Diagnostics as the editor gets them: one list for each document. A document
that had diagnostics and has none any more gets an empty list, so that the
editor forgets the old ones.
-/

namespace CelWatch.Lsp

structure Diagnostic where
  range : Range
  severity : Severity
  code : Option String
  source : String
  message : String
deriving DecidableEq, Repr

/-- The number for a severity. -/
def severityNumber : Severity → Nat
  | .error => 1
  | .warning => 2
  | .information => 3
  | .hint => 4

/-- A diagnostic without an end has an empty range. -/
def Diagnostic.ofDiagnostic (diagnostic : CelWatch.Diagnostic) : Diagnostic where
  range := .ofPositions diagnostic.start (diagnostic.stop.getD diagnostic.start)
  severity := diagnostic.severity
  code := diagnostic.code
  source := diagnostic.source
  message := diagnostic.message

def Diagnostic.toJson (diagnostic : Diagnostic) : Json :=
  .object ([
    ("range", diagnostic.range.toJson),
    ("severity", .ofNat (severityNumber diagnostic.severity))] ++
    (diagnostic.code.map fun code => ("code", .string code)).toList ++ [
    ("source", .string diagnostic.source),
    ("message", .string diagnostic.message)])

/-- The diagnostics of one document. -/
structure Publication where
  uri : Uri
  diagnostics : List Diagnostic
deriving DecidableEq, Repr

def Publication.toJson (publication : Publication) : Json :=
  .object [
    ("uri", .string publication.uri.text),
    ("diagnostics", .ofList Diagnostic.toJson publication.diagnostics)]

/-- The documents that have diagnostics, in the order of their identities. -/
def documentsOf (diagnostics : List CelWatch.Diagnostic) : List Uri :=
  Ascending.ofList (diagnostics.map (·.uri))

/-- The publications of a round, in the order of the identities: one for each
document that has diagnostics or had some in the round before. -/
def planPublications (previous : List Uri) (diagnostics : List CelWatch.Diagnostic) :
    List Publication :=
  let uris := Ascending.ofList (previous ++ diagnostics.map (·.uri))
  uris.map fun uri =>
    ⟨uri, (diagnostics.filter (·.uri == uri)).map Diagnostic.ofDiagnostic⟩

end CelWatch.Lsp
