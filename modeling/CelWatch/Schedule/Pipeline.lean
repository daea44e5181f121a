import CelWatch.Document.Context
import CelWatch.Engine.Basic
import CelWatch.Schedule.Effect

/-!
One parse of a snapshot: the engine, then the extractor. Whatever becomes of
them, a parse has a result. A breakdown of either, or a failure of the engine,
becomes a diagnostic at the start of the document, with a warning and a report.
-/

namespace CelWatch

/-- The engine, and the extractor for its trees. -/
structure Pipeline (Tree Metadata : Type) where
  engine : Engine Tree
  extractor : Extractor Tree Metadata

/-- What a parse gives. -/
structure ParseResult (Tree Metadata : Type) where
  tree : Option Tree
  metadata : Option Metadata
  diagnostics : List Diagnostic

namespace ParseResult

variable {Tree Metadata : Type}

/-- Puts the result into a context, as that of the snapshot. The tree and the
metadata get an identity of their own. -/
def store (result : ParseResult Tree Metadata) (identity : Nat) (context : Context Tree Metadata) :
    Context Tree Metadata :=
  { context with
    tree := result.tree.map (⟨identity, ·⟩)
    metadata := result.metadata.map (⟨identity, ·⟩)
    diagnostics := result.diagnostics
    parsedVersion := some context.snapshot.version }

end ParseResult

namespace Pipeline

variable {Tree Metadata : Type}

/-- What the log and the telemetry are told about a failure. -/
def failureEffects (snapshot : Snapshot) (detail : String) : List Effect := [
  .warned (.parseFailure snapshot.uri snapshot.version detail),
  .reported ⟨TelemetryEvent.parseFailureName, .object [
    ("uri", .string snapshot.uri.text),
    ("file", .string snapshot.path.display),
    ("version", .ofInt snapshot.version),
    ("detail", .string detail)]⟩]

/-- The issue that stands for a failure. -/
def failureIssue (detail : String) : Issue :=
  .error .first ("internal error while parsing: " ++ detail)

/-- How a failure of the engine is told. -/
def engineBreakdown (breakdown : Breakdown) : String :=
  "parser panicked: " ++ breakdown.message

/-- How a failure of the extractor is told. -/
def extractorBreakdown (breakdown : Breakdown) : String :=
  "metadata extraction panicked: " ++ breakdown.message

/-- A breakdown of the engine counts as its failure. -/
def outcome (pipeline : Pipeline Tree Metadata) (snapshot : Snapshot) (kind : DocumentKind) :
    Outcome Tree :=
  match pipeline.engine.parse snapshot.text snapshot.path kind.isTemplate with
  | .ok outcome => outcome
  | .error breakdown => .failure (engineBreakdown breakdown)

/-- Issues as diagnostics of the snapshot. -/
def attach (pipeline : Pipeline Tree Metadata) (snapshot : Snapshot) (issues : List Issue) :
    List Diagnostic :=
  issues.map fun issue => issue.attach snapshot.uri snapshot.path pipeline.engine.name

/-- The result without a tree, with the failure as the last issue. -/
def fail (pipeline : Pipeline Tree Metadata) (snapshot : Snapshot) (issues : List Issue)
    (detail : String) : ParseResult Tree Metadata × List Effect :=
  (⟨none, none, pipeline.attach snapshot (issues ++ [failureIssue detail])⟩,
    failureEffects snapshot detail)

/-- What becomes of an outcome of the engine. -/
def conclude (pipeline : Pipeline Tree Metadata) (snapshot : Snapshot) :
    Outcome Tree → ParseResult Tree Metadata × List Effect
  | .parsed tree issues =>
    match pipeline.extractor.extract tree with
    | .ok metadata => (⟨some tree, some metadata, pipeline.attach snapshot issues⟩, [])
    | .error breakdown => pipeline.fail snapshot issues (extractorBreakdown breakdown)
  | .syntaxError place message =>
    (⟨none, none, pipeline.attach snapshot [.error place message]⟩, [])
  | .failure detail => pipeline.fail snapshot [] detail

/-- Parses a snapshot. -/
def run (pipeline : Pipeline Tree Metadata) (snapshot : Snapshot) (kind : DocumentKind) :
    ParseResult Tree Metadata × List Effect :=
  let (result, effects) := pipeline.conclude snapshot (pipeline.outcome snapshot kind)
  (result, .parsed snapshot.text snapshot.path kind.isTemplate :: effects)

end Pipeline

end CelWatch
