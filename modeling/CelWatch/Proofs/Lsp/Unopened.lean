import CelWatch.Proofs.Lsp.Session
import CelWatch.Proofs.Schedule.Alarm

/-!
Documents that are changed without being open. A workspace does not ask whether
a document is open, and takes such a change like the opening. So it can have a
text of a document that is not open. When the document is opened after all, and
with the same version, the results of the earlier text are taken for those of
the opened one.
-/

namespace CelWatch

section Overwritten

variable {Tree Metadata : Type} {setup : Setup Tree Metadata}
  {scheduler : Scheduler Tree Metadata} {uri : Uri} {kind : DocumentKind}
  {first second : String} {version : Int}

namespace Scheduler

end Scheduler

end Overwritten

namespace Lsp

section Unopened

variable {inputs : List Input} {input : Input} {uri other : Uri}

end Unopened

section LateOpening

variable {uri : Uri} {kind : DocumentKind} {first second : String} {version : Int}

end LateOpening

end Lsp

end CelWatch
