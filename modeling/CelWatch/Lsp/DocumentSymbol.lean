import CelWatch.Lsp.Range
import CelWatch.Symbol.Table

/-!
Symbols of a document as the editor lists them.
-/

namespace CelWatch.Lsp

structure DocumentSymbol where
  name : String
  detail : String
  kind : SymbolKind
  range : Range
deriving DecidableEq, Repr

/-- The number for a kind of symbol. -/
def symbolKindNumber : SymbolKind → Nat
  | .variable => 13
  | .function => 12
  | .field => 8

/-- The symbols of a table in the text that the table was made from, each at
its first occurrence. -/
def documentSymbols (table : SymbolTable) (text : String) : List DocumentSymbol :=
  let index := LineIndex.ofString text
  table.symbols.map fun symbol =>
    let (start, stop) := index.span symbol.span
    ⟨symbol.name, toString symbol.occurrences ++ " reference(s)", symbol.kind,
      .ofPositions start stop⟩

def DocumentSymbol.toJson (symbol : DocumentSymbol) : Json :=
  .object [
    ("name", .string symbol.name),
    ("detail", .string symbol.detail),
    ("kind", .ofNat (symbolKindNumber symbol.kind)),
    ("range", symbol.range.toJson),
    ("selectionRange", symbol.range.toJson)]

end CelWatch.Lsp
