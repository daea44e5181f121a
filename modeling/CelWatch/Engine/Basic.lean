import CelWatch.Diagnostic

/-!
Engines and extractors: what turns a text into a tree, and a tree into
metadata. Either may break down instead of answering.
-/

namespace CelWatch

/-- What an engine makes of a text. -/
inductive Outcome (Tree : Type) where
  /-- The text has a tree; issues do not stand against it. -/
  | parsed (tree : Tree) (issues : List Issue)
  | syntaxError (place : Position) (message : String)
  /-- The engine could not do its work, whatever the text. -/
  | failure (detail : String)
deriving DecidableEq, Repr

/-- What is left of a component that broke down: a message, if it gave one. -/
structure Breakdown where
  text : Option String
deriving DecidableEq, Repr

def Breakdown.message (breakdown : Breakdown) : String :=
  breakdown.text.getD "unknown panic"

/-- Parses the texts of documents. -/
structure Engine (Tree : Type) where
  /-- The name that diagnostics give as their source. -/
  name : String
  parse : (text : String) → (path : FilePath) → (isTemplate : Bool) →
    Except Breakdown (Outcome Tree)

/-- Derives metadata from trees. -/
structure Extractor (Tree Metadata : Type) where
  extract : Tree → Except Breakdown Metadata

end CelWatch
