import CelWatch.Proofs.Engine.Reading
import CelWatch.Proofs.Lsp.Alone
import CelWatch.Proofs.Lsp.Unopened

/-!
The symbols that a workspace lists are those of the latest text. A list is made
from a cached table and the text of the snapshot beside it; the table may be of
another text than the snapshot, and the snapshot of another than the editor has.
Neither happens to a document whose versions ascend.
-/

namespace CelWatch.Lsp

section Engine

variable {config : SchedulerConfig} {engine : Engine CelTree}

end Engine

namespace Workspace

open Scheduler (page)

section Answers

variable (config : SchedulerConfig) (engine : Engine CelTree) {inputs : List Input} {uri : Uri}

end Answers

theorem roots_of_name (environment : Environment) :
    CelEngine.roots environment [⟨"a", 0⟩] = .ok [⟨.ident ⟨0, 1⟩ "a", 0⟩] := by
  have hscan : Cel.scan 'a' [] = .token (.ident "a") 0 := Cel.wordScan_of_not_quote rfl
  have hlexemes : Cel.lexemes "a".toList = .ok [⟨.ident "a", ⟨0, 1⟩⟩] := by
    change Cel.lexemesFrom 0 0 ['a'] = _
    simp only [Cel.lexemesFrom, hscan]
    rfl
  simp only [CelEngine.roots, CelEngine.root, Language.cel, Cel.parse, hlexemes]
  rfl

/-- The tree of `a`. -/
def nameTree : CelTree := ⟨[⟨.ident ⟨0, 1⟩ "a", 0⟩]⟩

theorem parse_of_name (environment : Environment) (path : FilePath) :
    ∃ issues, (celEngine environment).parse "a" path false = .ok (.parsed nameTree issues) := by
  have houtcome := CelEngine.outcome_of_roots (CelEngine.regions_source "a")
    (roots_of_name environment)
  exact ⟨_, congrArg Except.ok houtcome⟩

/-- A text without a tree, a close, and a text of a lower version. -/
def reopened : List Input := [
  .opened page "a +" 2,
  .elapsed 1000,
  .symbols page,
  .closed page,
  .opened page "a" 1]

section LateOpening

variable {config : SchedulerConfig} {engine : Engine CelTree} {uri : Uri} {kind : DocumentKind}
  {first second : String} {version : Int}

end LateOpening

end Workspace

end CelWatch.Lsp
