import CelWatch.Text.Slice
import CelWatch.Typing.Ty

/-!
What can be wrong with the types of an expression, and how it is told.
-/

namespace CelWatch

/-- The kinds of what a check of an expression can find. -/
inductive FaultKind where
  | undeclaredReference
  | noMatchingOverload
  | typeMismatch
  | notAssignable
  | undefinedField
  | heterogeneousAggregate
  | notAType
  | other
deriving DecidableEq, Repr

/-- The word for a kind. What cannot be assigned counts as a mismatch. -/
def FaultKind.code : FaultKind → String
  | .undeclaredReference => "undeclared-reference"
  | .noMatchingOverload => "no-matching-overload"
  | .typeMismatch => "type-mismatch"
  | .notAssignable => "type-mismatch"
  | .undefinedField => "undefined-field"
  | .heterogeneousAggregate => "heterogeneous-aggregate"
  | .notAType => "not-a-type"
  | .other => "check-error"

inductive TypeFault where
  | undeclared (name : String)
  | undefinedField (field : String) (ty : Ty)
  | noOverload (function : String) (arguments : List Ty)
  | mismatch (expected found : Ty)
  /-- A call has a number of arguments that is none of `counts`. -/
  | arity (function : String) (counts : List Nat) (given : Nat)
deriving DecidableEq, Repr

/-- A fault and the bytes of the text where it is. -/
structure TypeIssue where
  span : ByteSpan
  fault : TypeFault
deriving DecidableEq, Repr

namespace TypeFault

def kind : TypeFault → FaultKind
  | .undeclared _ => .undeclaredReference
  | .undefinedField _ _ => .undefinedField
  | .noOverload _ _ => .noMatchingOverload
  | .mismatch _ _ => .typeMismatch
  | .arity _ _ _ => .other

/-- Numbers of arguments as a message gives them. -/
def countsText : List Nat → String
  | [1] => "exactly 1 argument"
  | [n] => "exactly " ++ toString n ++ " arguments"
  | counts => String.intercalate " or " (counts.map toString) ++ " arguments"

def message : TypeFault → String
  | .undeclared name => "undeclared reference to '" ++ name ++ "'"
  | .undefinedField field ty => "undefined field '" ++ field ++ "' on type '" ++ ty.display ++ "'"
  | .noOverload function arguments =>
    "no matching overload for '" ++ function ++ "' with argument types (" ++
      String.intercalate ", " (arguments.map Ty.display) ++ ")"
  | .mismatch expected found =>
    "expected type '" ++ expected.display ++ "' but found '" ++ found.display ++ "'"
  | .arity function counts given =>
    "'" ++ function ++ "' expects " ++ countsText counts ++ ", got " ++ toString given

end TypeFault

end CelWatch
