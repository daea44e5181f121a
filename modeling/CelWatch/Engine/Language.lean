import CelWatch.Cel.Expr
import CelWatch.Typing.Fault

/-!
A language of expressions as an engine uses it: a text is read, and the
expression that was read is checked. Both depend on nothing but what they are
given.
-/

namespace CelWatch

/-- What is wrong with a text, and the byte where it shows. -/
structure ReadError where
  offset : Nat
  message : String
deriving DecidableEq, Repr

/-- What reading a text gives. An expression beside errors is what could be
saved of the text. -/
structure Reading where
  errors : List ReadError
  expr : Option Cel.Expr

/-- What a check finds in an expression, and the bytes of the text where it is. -/
structure Finding where
  span : ByteSpan
  kind : FaultKind
  message : String
deriving DecidableEq, Repr

structure Language where
  read : String → Reading
  check : Cel.Expr → List Finding

end CelWatch
