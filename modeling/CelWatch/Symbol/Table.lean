import CelWatch.Registry
import CelWatch.Symbol.Occurrence

/-!
Tables of symbols: each name of a kind once, in the order of the first
occurrences, with the place of the first and the number of all. An index says
where the symbol of a name stands.
-/

namespace CelWatch

structure Symbol where
  kind : SymbolKind
  name : String
  /-- Where the name stands first. -/
  span : ByteSpan
  occurrences : Nat
deriving DecidableEq, Repr, Inhabited

namespace Symbol

/-- What a symbol is looked up by. -/
def key (symbol : Symbol) : SymbolKind × String := (symbol.kind, symbol.name)

/-- The symbol of a name that occurs for the first time. -/
def ofFirst (occurrence : Occurrence) : Symbol :=
  ⟨occurrence.kind, occurrence.name, occurrence.span, 1⟩

/-- The symbol with one occurrence more. -/
def again (symbol : Symbol) : Symbol :=
  { symbol with occurrences := symbol.occurrences + 1 }

end Symbol

/-- The name of an occurrence, as what its symbol is looked up by. -/
def Occurrence.key (occurrence : Occurrence) : SymbolKind × String :=
  (occurrence.kind, occurrence.name)

structure SymbolTable where
  symbols : List Symbol
  /-- Where the symbol of a kind and a name stands among the symbols. -/
  index : Registry (SymbolKind × String) Nat
  /-- The index points at nothing behind the last symbol. -/
  inBounds : ∀ {key place}, index.get? key = some place → place < symbols.length

/-- Whether a name is kept for macros, which bring such names in. -/
def isSynthetic (name : String) : Bool :=
  name.isEmpty || ['@'].isPrefixOf name.toList || ['_', '_'].isPrefixOf name.toList

namespace SymbolTable

def empty : SymbolTable := ⟨[], .empty, nofun⟩

instance : Inhabited SymbolTable := ⟨empty⟩

def get? (table : SymbolTable) (kind : SymbolKind) (name : String) : Option Symbol :=
  match h : table.index.get? (kind, name) with
  | none => none
  | some place => some (table.symbols.get ⟨place, table.inBounds h⟩)

def size (table : SymbolTable) : Nat := table.symbols.length

def isEmpty (table : SymbolTable) : Bool := table.symbols.isEmpty

/-- Counts an occurrence for the symbol at a place. -/
def count (table : SymbolTable) (place : Nat) : SymbolTable where
  symbols := table.symbols.modify place Symbol.again
  index := table.index
  inBounds h := by simpa using table.inBounds h

/-- Adds the symbol of an occurrence as the last one. -/
def push (table : SymbolTable) (occurrence : Occurrence) : SymbolTable where
  symbols := table.symbols ++ [.ofFirst occurrence]
  index := table.index.insert occurrence.key table.symbols.length
  inBounds h := by
    rw [List.length_append, List.length_singleton]
    rcases Registry.get?_insert_eq_some h with ⟨_, rfl⟩ | ⟨_, hbefore⟩
    · exact Nat.lt_succ_self _
    · exact Nat.lt_succ_of_lt (table.inBounds hbefore)

/-- Takes an occurrence in: for the symbol that has its name, or as a new one. -/
def record (table : SymbolTable) (occurrence : Occurrence) : SymbolTable :=
  match table.index.get? occurrence.key with
  | some place => table.count place
  | none => table.push occurrence

/-- Takes an occurrence in, unless its name is synthetic. -/
def add (table : SymbolTable) (occurrence : Occurrence) : SymbolTable :=
  if isSynthetic occurrence.name then table else table.record occurrence

def ofOccurrences (occurrences : List Occurrence) : SymbolTable :=
  occurrences.foldl add empty

end SymbolTable

end CelWatch
