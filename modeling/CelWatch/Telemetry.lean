import CelWatch.Json.Basic

/-!
Events that are reported about the program's own working. A report is sent and
forgotten: nothing depends on its arrival.
-/

namespace CelWatch

structure TelemetryEvent where
  name : String
  payload : Json

namespace TelemetryEvent

/-- The name of the event that tells of a parse that broke down. -/
def parseFailureName : String := "parse_failure"

end TelemetryEvent

end CelWatch
