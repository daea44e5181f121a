import CelWatch.Lsp.Publication
import CelWatch.Telemetry

/-!
Messages to the editor that wait for no answer.
-/

namespace CelWatch.Lsp

structure Notification where
  method : String
  params : Json

namespace Notification

def publication (publication : Publication) : Notification :=
  ⟨"textDocument/publishDiagnostics", publication.toJson⟩

def telemetry (event : TelemetryEvent) : Notification :=
  ⟨"telemetry/event", .object [("event", .string event.name), ("payload", event.payload)]⟩

/-- A line for the editor's log. -/
def logMessage (text : String) : Notification :=
  ⟨"window/logMessage", .object [("type", .ofNat 3), ("message", .string text)]⟩

def toJson (notification : Notification) : Json :=
  .object [("method", .string notification.method), ("params", notification.params)]

end Notification

end CelWatch.Lsp
