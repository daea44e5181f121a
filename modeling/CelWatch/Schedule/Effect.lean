import CelWatch.Diagnostic
import CelWatch.Telemetry
import CelWatch.Warning

/-!
What handling an event does to the world outside the scheduler, in order.
-/

namespace CelWatch

inductive Effect where
  /-- The engine is given a text. -/
  | parsed (text : String) (path : FilePath) (isTemplate : Bool)
  | warned (warning : Warning)
  | reported (event : TelemetryEvent)
  /-- A timer starts to run. When its time is over it fires with this generation. -/
  | armed (uri : Uri) (generation : Nat)
  /-- The diagnostics of all documents are handed on. -/
  | published (diagnostics : List Diagnostic)

end CelWatch
