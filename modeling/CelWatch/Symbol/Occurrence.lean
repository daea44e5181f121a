import CelWatch.Cel.Expr

/-!
The names in an expression, in the order in which its parts are visited. The
name of a call's callee is a function's, that of any other identifier a
variable's, and that of any other member a field's.
-/

namespace CelWatch

inductive SymbolKind where
  | variable
  | function
  | field
deriving DecidableEq, Repr, Inhabited

/-- The word for a kind. -/
def SymbolKind.word : SymbolKind → String
  | .variable => "variable"
  | .function => "function"
  | .field => "field"

/-- One place where a name stands. -/
structure Occurrence where
  kind : SymbolKind
  name : String
  span : ByteSpan
deriving DecidableEq, Repr, Inhabited

/-- Moves an occurrence to the right. -/
def Occurrence.shift (occurrence : Occurrence) (offset : Nat) : Occurrence :=
  { occurrence with span := occurrence.span.shift offset }

/-- The span of the member's name at the end of an expression. -/
def memberSpan (span : ByteSpan) (name : String) : ByteSpan :=
  ⟨span.stop - name.utf8ByteSize, span.stop⟩

namespace Cel

mutual

/-- The occurrences of names in an expression. Names of types are none. -/
def Expr.occurrences : Expr → List Occurrence
  | .null _ => []
  | .bool _ _ => []
  | .int _ _ => []
  | .uint _ _ => []
  | .float _ _ _ => []
  | .string _ _ => []
  | .bytes _ _ => []
  | .ident span name => [⟨.variable, name, span⟩]
  | .rootIdent span name => [⟨.variable, name, span⟩]
  | .list _ elements => elementOccurrences elements
  | .map _ entries => entryOccurrences entries
  | .unary _ _ operand => operand.occurrences
  | .binary _ _ left right => left.occurrences ++ right.occurrences
  | .conditional _ condition whenTrue whenFalse =>
    condition.occurrences ++ whenTrue.occurrences ++ whenFalse.occurrences
  | .member span receiver field _ =>
    receiver.occurrences ++ [⟨.field, field, memberSpan span field⟩]
  | .index _ receiver key _ => receiver.occurrences ++ key.occurrences
  | .call _ (.ident span name) arguments =>
    ⟨.function, name, span⟩ :: argumentOccurrences arguments
  | .call _ (.member span receiver name _) arguments =>
    receiver.occurrences ++ ⟨.function, name, memberSpan span name⟩ :: argumentOccurrences arguments
  | .call _ callee arguments => callee.occurrences ++ argumentOccurrences arguments
  | .struct _ _ fields => fieldOccurrences fields
  | .comprehension _ _ _ range _ start condition step result =>
    range.occurrences ++ start.occurrences ++ condition.occurrences ++ step.occurrences ++
      result.occurrences
  | .hasField _ receiver _ => receiver.occurrences
  | .bind _ _ value body => value.occurrences ++ body.occurrences
  | .error _ => []

def argumentOccurrences : List Expr → List Occurrence
  | [] => []
  | expr :: rest => expr.occurrences ++ argumentOccurrences rest

def elementOccurrences : List Element → List Occurrence
  | [] => []
  | .mk _ value :: rest => value.occurrences ++ elementOccurrences rest

def entryOccurrences : List Entry → List Occurrence
  | [] => []
  | .mk _ key value :: rest => key.occurrences ++ value.occurrences ++ entryOccurrences rest

def fieldOccurrences : List Field → List Occurrence
  | [] => []
  | .mk _ _ value :: rest => value.occurrences ++ fieldOccurrences rest

end

end Cel

end CelWatch
