import CelWatch.Cel.Parse
import CelWatch.Engine.Basic
import CelWatch.Engine.Language
import CelWatch.Symbol.Table
import CelWatch.Template.Region
import CelWatch.Text.Quoted
import CelWatch.Typing.Check

/-!
The engine for CEL. A source document is one expression; a template has one
expression for each interpolation. The first syntax error of a document stands
for the document; what a check finds does not keep it from having a tree. The
engine takes the language as it comes: all it asks of it is to read a text and
to check an expression.
-/

namespace CelWatch

open Cel

/-- An expression and where the text that it comes from starts in the document. -/
structure CelRoot where
  expr : Expr
  offset : Nat

/-- The expressions of a document. -/
structure CelTree where
  roots : List CelRoot

/-- CEL with the names of an environment. -/
def Language.cel (environment : Environment) : Language where
  read text :=
    match parse text with
    | .ok expr => ⟨[], some expr⟩
    | .error error => ⟨[⟨error.offset, error.cause.message⟩], none⟩
  check expr := (environment.issues expr).map fun typed =>
    ⟨typed.span, typed.fault.kind, typed.fault.message⟩

instance : Coe Environment Language := ⟨Language.cel⟩

namespace CelEngine

/-- The texts of a document that are expressions. -/
def regions (text : String) (isTemplate : Bool) :
    Except Template.TemplateError (List Template.Region) :=
  if isTemplate then Template.regions text else .ok [⟨text, 0⟩]

/-- What a check finds as an issue of the document. -/
def issue (index : LineIndex) (offset : Nat) (finding : Finding) : Issue :=
  let (start, stop) := index.span (finding.span.shift offset)
  ⟨start, some stop, .error, some finding.kind.code, finding.message⟩

/-- Why a document has no tree. -/
inductive Stop where
  | syntaxError (offset : Nat) (message : String)
  | failure (detail : String)
deriving DecidableEq, Repr

/-- How it is told that reading a text gave nothing at all. -/
def nothingRead (source : String) : String :=
  "cel parser returned neither a tree nor an error for " ++ Text.quoted source.toList

/-- The expression of a region. An error counts even where an expression could
be saved. -/
def root (language : Language) (region : Template.Region) : Except Stop CelRoot :=
  match language.read region.source with
  | ⟨error :: _, _⟩ => .error (.syntaxError (region.offset + error.offset) error.message)
  | ⟨[], some expr⟩ => .ok ⟨expr, region.offset⟩
  | ⟨[], none⟩ => .error (.failure (nothingRead region.source))

/-- The expressions of the regions, up to the first region that has none. -/
def roots (language : Language) : List Template.Region → Except Stop (List CelRoot)
  | [] => .ok []
  | region :: rest =>
    match root language region with
    | .error stop => .error stop
    | .ok root => (roots language rest).map (root :: ·)

/-- The issues of an expression. -/
def rootIssues (language : Language) (index : LineIndex) (root : CelRoot) : List Issue :=
  (language.check root.expr).map (issue index root.offset)

/-- What the engine makes of a text. -/
def outcome (language : Language) (text : String) (isTemplate : Bool) : Outcome CelTree :=
  let index := LineIndex.ofString text
  match regions text isTemplate with
  | .error cause@(.unterminated offset) => .syntaxError (index.position offset) cause.message
  | .ok found =>
    match roots language found with
    | .error (.syntaxError offset message) => .syntaxError (index.position offset) message
    | .error (.failure detail) => .failure detail
    | .ok roots => .parsed ⟨roots⟩ (roots.flatMap (rootIssues language index))

end CelEngine

/-- The engine that checks expressions against an environment. -/
def celEngine (environment : Environment) : Engine CelTree where
  name := "cel"
  parse text _ isTemplate := .ok (CelEngine.outcome environment text isTemplate)

/-- The names in a document, with their places in it. -/
def CelTree.occurrences (tree : CelTree) : List Occurrence :=
  tree.roots.flatMap fun root => root.expr.occurrences.map (·.shift root.offset)

def CelTree.symbols (tree : CelTree) : SymbolTable :=
  .ofOccurrences tree.occurrences

/-- The metadata of a document are its symbols. -/
def symbolExtractor : Extractor CelTree SymbolTable where
  extract tree := .ok tree.symbols

end CelWatch
