import CelWatch.Proofs.Engine.Reading
import CelWatch.Proofs.Lsp.Alone
import CelWatch.Proofs.Lsp.Rounds
import CelWatch.Proofs.Lsp.Unopened
import CelWatch.Proofs.Schedule.Tracking

/-!
What an editor shows converges to the truth. The notifications of a workspace
carry the rounds that its scheduler hands on, so the editor shows what the last
round has, and the last round has the results of the documents that are
tracked. When no timer is pending these are the results of the latest texts.
-/

namespace CelWatch.Lsp

open Scheduler (page)

section Latest

variable {config : SchedulerConfig} {pipeline : Pipeline CelTree SymbolTable} {desk : Desk}
  {uri : Uri}

end Latest

namespace Workspace

end Workspace

section LateOpening

variable {config : SchedulerConfig} {uri : Uri} {kind : DocumentKind}

end LateOpening

end CelWatch.Lsp
