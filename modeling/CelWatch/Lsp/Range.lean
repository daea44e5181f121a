import CelWatch.Json.Basic
import CelWatch.Text.Position

/-!
Places of a text as the editor counts them: lines and columns from zero.
-/

namespace CelWatch.Lsp

structure Point where
  line : Nat
  character : Nat
deriving DecidableEq, Repr, Inhabited

/-- The place that the editor counts from zero. -/
def Point.ofPosition (position : Position) : Point :=
  ⟨position.line - 1, position.column - 1⟩

structure Range where
  start : Point
  stop : Point
deriving DecidableEq, Repr, Inhabited

/-- The range between two places. -/
def Range.ofPositions (start stop : Position) : Range :=
  ⟨.ofPosition start, .ofPosition stop⟩

def Point.toJson (point : Point) : Json :=
  .object [("line", .ofNat point.line), ("character", .ofNat point.character)]

def Range.toJson (range : Range) : Json :=
  .object [("start", range.start.toJson), ("end", range.stop.toJson)]

end CelWatch.Lsp
