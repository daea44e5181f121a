/-!
Types of CEL expressions and their names.

Besides the types that a declaration can give there are three that only
checking brings up: `failure`, the type of an expression that has none,
`unknown`, the type that nothing has fixed yet, and `parameter`, a type
parameter of an overload that nothing has fixed.
-/

namespace CelWatch

inductive Ty where
  | bool
  | int
  | uint
  | double
  | string
  | bytes
  | null
  | dyn
  | timestamp
  | duration
  | failure
  | list (element : Ty)
  | map (key : Ty) (value : Ty)
  | typeOf (of : Ty)
  | wrapper (of : Ty)
  | optional (of : Ty)
  | message (name : String)
  | unknown (name : String)
  | parameter (name : String)
deriving DecidableEq, Repr, Inhabited

/-- The name of a type as messages write it. -/
def Ty.display : Ty → String
  | .bool => "bool"
  | .int => "int"
  | .uint => "uint"
  | .double => "double"
  | .string => "string"
  | .bytes => "bytes"
  | .null => "null"
  | .dyn => "dyn"
  | .timestamp => "timestamp"
  | .duration => "duration"
  | .failure => "error"
  | .list element => "list<" ++ element.display ++ ">"
  | .map key value => "map<" ++ key.display ++ ", " ++ value.display ++ ">"
  | .typeOf of => "type(" ++ of.display ++ ")"
  | .wrapper of => "wrapper<" ++ of.display ++ ">"
  | .optional of => "optional<" ++ of.display ++ ">"
  | .message name => name
  | .unknown name => "?" ++ name
  | .parameter name => name ++ "#"

end CelWatch
