import CelWatch.Text.Slice

/-!
Syntax trees of CEL. Every node knows the bytes of the text that it stands
for. Parentheses leave no node, and macros are already expanded: a node that a
macro brings in stands for the whole call.
-/

namespace CelWatch.Cel

inductive UnaryOp where
  | not
  | negate
deriving DecidableEq, Repr, Inhabited

inductive BinaryOp where
  | or
  | and
  | equal
  | notEqual
  | less
  | lessEqual
  | greater
  | greaterEqual
  | in
  | add
  | subtract
  | multiply
  | divide
  | remainder
deriving DecidableEq, Repr, Inhabited

/-- Operators of a higher precedence bind more tightly; those of one
precedence group to the left. A conditional binds less tightly than all. -/
def BinaryOp.precedence : BinaryOp → Nat
  | .or => 1
  | .and => 2
  | .equal => 3
  | .notEqual => 3
  | .less => 3
  | .lessEqual => 3
  | .greater => 3
  | .greaterEqual => 3
  | .in => 3
  | .add => 4
  | .subtract => 4
  | .multiply => 5
  | .divide => 5
  | .remainder => 5

/-- The name of the function that an operator stands for. -/
def UnaryOp.function : UnaryOp → String
  | .not => "!_"
  | .negate => "-_"

/-- The name of the function that an operator stands for. -/
def BinaryOp.function : BinaryOp → String
  | .or => "_||_"
  | .and => "_&&_"
  | .equal => "_==_"
  | .notEqual => "_!=_"
  | .less => "_<_"
  | .lessEqual => "_<=_"
  | .greater => "_>_"
  | .greaterEqual => "_>=_"
  | .in => "@in"
  | .add => "_+_"
  | .subtract => "_-_"
  | .multiply => "_*_"
  | .divide => "_/_"
  | .remainder => "_%_"

mutual

inductive Expr where
  | null (span : ByteSpan)
  | bool (span : ByteSpan) (value : Bool)
  | int (span : ByteSpan) (value : Int)
  | uint (span : ByteSpan) (value : Nat)
  /-- The number `mantissa · 10 ^ exponent`. -/
  | float (span : ByteSpan) (mantissa : Nat) (exponent : Int)
  | string (span : ByteSpan) (value : String)
  | bytes (span : ByteSpan) (value : List UInt8)
  | ident (span : ByteSpan) (name : String)
  /-- An identifier after a dot, which is looked up from the root. -/
  | rootIdent (span : ByteSpan) (name : String)
  | list (span : ByteSpan) (elements : List Element)
  | map (span : ByteSpan) (entries : List Entry)
  | unary (span : ByteSpan) (op : UnaryOp) (operand : Expr)
  | binary (span : ByteSpan) (op : BinaryOp) (left right : Expr)
  | conditional (span : ByteSpan) (condition whenTrue whenFalse : Expr)
  | member (span : ByteSpan) (receiver : Expr) (field : String) (isOptional : Bool)
  | index (span : ByteSpan) (receiver key : Expr) (isOptional : Bool)
  | call (span : ByteSpan) (callee : Expr) (arguments : List Expr)
  | struct (span : ByteSpan) (typeName : Expr) (fields : List Field)
  /-- Folds `step` over a range. The second variable is there when the loop
  runs over pairs of a key and a value. -/
  | comprehension (span : ByteSpan) (item : String) (second : Option String) (range : Expr)
      (accumulator : String) (start condition step result : Expr)
  /-- Whether a receiver has a field. -/
  | hasField (span : ByteSpan) (receiver : Expr) (field : String)
  /-- Names a value in a body. -/
  | bind (span : ByteSpan) (name : String) (value body : Expr)
  /-- Stands where nothing could be read. Only of texts without errors are trees kept. -/
  | error (span : ByteSpan)

/-- An element of a list; an optional one is left out when it has no value. -/
inductive Element where
  | mk (isOptional : Bool) (value : Expr)

/-- An entry of a map. -/
inductive Entry where
  | mk (isOptional : Bool) (key value : Expr)

/-- A field of a message that is being built. -/
inductive Field where
  | mk (isOptional : Bool) (name : String) (value : Expr)

end

/-- The bytes of the text that an expression stands for. -/
def Expr.span : Expr → ByteSpan
  | .null span => span
  | .bool span _ => span
  | .int span _ => span
  | .uint span _ => span
  | .float span _ _ => span
  | .string span _ => span
  | .bytes span _ => span
  | .ident span _ => span
  | .rootIdent span _ => span
  | .list span _ => span
  | .map span _ => span
  | .unary span _ _ => span
  | .binary span _ _ _ => span
  | .conditional span _ _ _ => span
  | .member span _ _ _ => span
  | .index span _ _ _ => span
  | .call span _ _ => span
  | .struct span _ _ => span
  | .comprehension span _ _ _ _ _ _ _ _ => span
  | .hasField span _ _ => span
  | .bind span _ _ _ => span
  | .error span => span

instance : Inhabited Expr := ⟨.null ⟨0, 0⟩⟩

/-- Whether an expression ends in a name, as a type name does. -/
def Expr.endsInName : Expr → Bool
  | .ident _ _ => true
  | .rootIdent _ _ => true
  | .member _ _ _ _ => true
  | _ => false

/-- The identifier that a chain of members starts with. -/
def Expr.firstName? : Expr → Option String
  | .ident _ name => some name
  | .rootIdent _ name => some name
  | .member _ receiver _ _ => receiver.firstName?
  | _ => none

/-- The dotted name that a chain of members spells, when it starts with an
identifier. The name of one that starts at the root starts with a dot. -/
def Expr.dottedName? : Expr → Option String
  | .ident _ name => some name
  | .rootIdent _ name => some ("." ++ name)
  | .member _ receiver field _ => receiver.dottedName?.map (· ++ "." ++ field)
  | _ => none

end CelWatch.Cel
