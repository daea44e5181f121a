import CelWatch.Typing.Ty

/-!
How types go together: which type may stand where another is asked for, which
type covers two others, and what the arguments of a call make of the type
parameters of an overload.
-/

namespace CelWatch

namespace Ty

/-- Whether a part of the type is fixed by nothing yet. -/
def isOpen : Ty → Bool
  | .list element => element.isOpen
  | .map key value => key.isOpen || value.isOpen
  | .typeOf of => of.isOpen
  | .wrapper of => of.isOpen
  | .optional of => of.isOpen
  | .unknown _ => true
  | .parameter _ => true
  | _ => false

/-- Whether a type says all about its values. -/
def isFixed : Ty → Bool
  | .list element => element.isFixed
  | .map key value => key.isFixed && value.isFixed
  | .typeOf of => of.isFixed
  | .wrapper of => of.isFixed
  | .optional of => of.isFixed
  | .unknown _ => false
  | .parameter _ => false
  | .dyn => false
  | _ => true

/-- Whether null may stand for the absence of a value of the type. -/
def isNullable : Ty → Bool
  | .null => true
  | .wrapper _ => true
  | .optional _ => true
  | .message _ => true
  | .timestamp => true
  | .duration => true
  | _ => false

/-- Whether a value of the second type will do where the first is asked for.
With `unwraps` a wrapped value will do where a plain one is asked for; a plain
one always does where a wrapped one is. -/
def takes (unwraps : Bool) : Ty → Ty → Bool
  | .dyn, _ => true
  | .unknown _, _ => true
  | _, .dyn => true
  | _, .unknown _ => true
  | _, .failure => true
  | asked, .null => asked.isNullable
  | .wrapper asked, .wrapper given => takes unwraps asked given
  | .wrapper asked, given => takes unwraps asked given
  | asked, .wrapper given => unwraps && takes unwraps asked given
  | .list asked, .list given => takes unwraps asked given
  | .map askedKey askedValue, .map key value =>
    takes unwraps askedKey key && takes unwraps askedValue value
  | .typeOf asked, .typeOf given => takes unwraps asked given
  | .optional asked, .optional given => takes unwraps asked given
  | asked, given => asked == given

/-- A type for values of either type. What is open in the first gives way to
the second; else the first stays if it will do. -/
def merge (known found : Ty) : Ty :=
  if known.isOpen || known = .dyn then found
  else if takes true known found then known
  else if takes true found known then found
  else .dyn

/-- A type for the values of all the types: the first of them that takes all
others, and one that is fixed before one that is not. -/
def joinAll (types : List Ty) : Ty :=
  let (fixed, vague) := types.partition isFixed
  match (fixed ++ vague).find? fun ty => types.all (takes false ty) with
  | some ty => ty
  | none => if types.isEmpty then .unknown "T" else .dyn

end Ty

/-- What the type parameters of an overload stand for in a call. -/
abbrev Bindings := List (String × Ty)

namespace Bindings

/-- A parameter stands for all types that were found for it. -/
def add (bindings : Bindings) (name : String) (ty : Ty) : Bindings :=
  (name, match bindings.lookup name with
    | some known => known.merge ty
    | none => ty) :: bindings

/-- The bindings after an argument of the second type is passed for a
parameter of the first; `none` when it cannot be. -/
def pass (bindings : Bindings) : Ty → Ty → Option Bindings
  | .parameter name, given => some (bindings.add name given)
  | .list asked, .list given => bindings.pass asked given
  | .map askedKey askedValue, .map key value => do
    (← bindings.pass askedKey key).pass askedValue value
  | .typeOf asked, .typeOf given => bindings.pass asked given
  | .optional asked, .optional given => bindings.pass asked given
  | asked, .wrapper given => bindings.pass asked given
  | asked, given => if Ty.takes true asked given then some bindings else none

/-- The bindings after all arguments are passed. -/
def passAll (bindings : Bindings) : List Ty → List Ty → Option Bindings
  | [], [] => some bindings
  | asked :: askedRest, given :: givenRest => do
    (← bindings.pass asked given).passAll askedRest givenRest
  | _, _ => none

/-- A type with the parameters replaced by what they stand for. One that stands
for an open type may be anything. -/
def apply (bindings : Bindings) : Ty → Ty
  | .list element => .list (bindings.apply element)
  | .map key value => .map (bindings.apply key) (bindings.apply value)
  | .typeOf of => .typeOf (bindings.apply of)
  | .wrapper of => .wrapper (bindings.apply of)
  | .optional of => .optional (bindings.apply of)
  | .parameter name =>
    match bindings.lookup name with
    | some ty => if ty.isOpen then .dyn else ty
    | none => .parameter name
  | plain => plain

end Bindings

end CelWatch
