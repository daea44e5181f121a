import CelWatch.Ascending
import CelWatch.Typing.Assign

/-!
Functions: a name with the overloads that a call can mean.
-/

namespace CelWatch

/-- One way to call a function. The parameters of a member start with the
receiver. -/
structure Overload where
  isMember : Bool
  parameters : List Ty
  result : Ty
deriving DecidableEq, Repr

structure Function where
  name : String
  overloads : List Overload
deriving DecidableEq, Repr

/-- What a call of a function comes to. -/
inductive Resolution where
  | result (ty : Ty)
  /-- No overload has such arguments. -/
  | noMatch
  /-- No overload has that many arguments; these numbers would do. -/
  | arity (counts : List Nat)
deriving DecidableEq, Repr

/-- The result of an overload for the arguments. -/
def Overload.result? (overload : Overload) (arguments : List Ty) : Option Ty :=
  (Bindings.passAll [] overload.parameters arguments).map fun bindings =>
    bindings.apply overload.result

/-- The number of arguments that stand in the parentheses of a call. -/
def Overload.argumentCount (overload : Overload) : Nat :=
  overload.parameters.length - if overload.isMember then 1 else 0

/-- What a call means. The arguments of a call on a receiver start with it. Of
the overloads that have such arguments the last counts. -/
def Function.resolve (function : Function) (isMember : Bool) (arguments : List Ty) : Resolution :=
  let styled := function.overloads.filter (·.isMember == isMember)
  let sized := styled.filter (·.parameters.length == arguments.length)
  match styled, sized, (sized.filterMap (·.result? arguments)).getLast? with
  | _, _, some ty => .result ty
  | _ :: _, [], none => .arity (Ascending.ofList (styled.map Overload.argumentCount))
  | _, _, none => .noMatch

end CelWatch
