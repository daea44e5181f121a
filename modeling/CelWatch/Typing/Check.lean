import CelWatch.Cel.Expr
import CelWatch.Typing.Environment
import CelWatch.Typing.Fault

/-!
The type of an expression in an environment, with the faults found on the way.
A part that has no type gets the type `failure`, which goes with every other,
so that one fault is told once. Faults come in the order in which the parts are
visited: those of the operands before those of their operation.
-/

namespace CelWatch

open Cel

/-- The names that are known at a place of an expression. -/
structure Scope where
  environment : Environment
  /-- Variables that the expression itself brings in, the innermost first. -/
  locals : List (String × Ty)

/-- The type of a part, and the faults in it. -/
structure Typed where
  ty : Ty
  issues : List TypeIssue
deriving DecidableEq, Repr

namespace Typed

/-- A part without a type because of the fault. -/
def fault (span : ByteSpan) (fault : TypeFault) : Typed := ⟨.failure, [⟨span, fault⟩]⟩

/-- Puts the faults of parts before those of the whole. -/
def after (typed : Typed) (parts : List Typed) : Typed :=
  { typed with issues := parts.flatMap issues ++ typed.issues }

end Typed

/-- The names under which a name is looked up in a container: in the container,
then in those around it, and last as it is written. -/
def candidates (container name : String) : List String :=
  if container.isEmpty then [name]
  else
    let parts := container.splitOn "."
    let around := (List.range (parts.length + 1)).reverse.map fun count => parts.take count
    around.map fun outer => String.intercalate "." (outer ++ [name])

namespace Scope

def enter (scope : Scope) (name : String) (ty : Ty) : Scope :=
  { scope with locals := (name, ty) :: scope.locals }

/-- The type of the variable of exactly this name. -/
def named? (scope : Scope) (name : String) : Option Ty :=
  scope.locals.lookup name <|> scope.environment.variableType? name

/-- The type of a name. What the expression brings in comes before what the
environment has, and its plain name before all. -/
def name? (scope : Scope) (name : String) : Option Ty :=
  scope.locals.lookup name <|>
    (candidates scope.environment.container name).findSome? scope.named?

def ident (scope : Scope) (span : ByteSpan) (name : String) : Typed :=
  match scope.name? name with
  | some ty => ⟨ty, []⟩
  | none => .fault span (.undeclared name)

/-- The variable that a chain of members spells, if there is one. The name that
the chain starts with must not be a variable's itself; the dotted name is looked
up in the container and as it is written. -/
def dotted? (scope : Scope) (expr : Expr) : Option Ty := do
  let first ← expr.firstName?
  let dotted ← expr.dottedName?
  if (scope.name? first).isSome then none
  else [scope.environment.container ++ "." ++ dotted, dotted].findSome? scope.named?

/-- The function that a chain of members spells, if there is one. -/
def dottedFunction? (scope : Scope) (expr : Expr) : Option Function :=
  expr.dottedName? >>= scope.environment.function?

end Scope

/-- The result of a function for arguments, of which the first is the receiver
when there is one. -/
def Function.apply (function : Function) (span : ByteSpan) (isMember : Bool) (arguments : List Ty) :
    Typed :=
  match function.resolve isMember arguments with
  | .result ty => ⟨ty, []⟩
  | .noMatch => .fault span (.noOverload function.name arguments)
  | .arity counts =>
    .fault span (.arity function.name counts (arguments.length - if isMember then 1 else 0))

/-- The result of a function that is found by its name. -/
def Scope.apply (scope : Scope) (span : ByteSpan) (name : String) (isMember : Bool)
    (arguments : List Ty) : Typed :=
  match scope.environment.function? name with
  | some function => function.apply span isMember arguments
  | none => .fault span (.undeclared name)

/-- The type of the members of a type that has any. -/
def Ty.memberType? : Ty → Option Ty
  | .map _ value => some value
  | .dyn => some .dyn
  | .message _ => some .dyn
  | .unknown _ => some .dyn
  | _ => none

/-- What an optional type holds, and whether the type is one. -/
def Ty.unwrapped : Ty → Ty × Bool
  | .optional inner => (inner, true)
  | plain => (plain, false)

/-- An optional type where the condition holds. Optionals do not nest. -/
def Ty.optionalIf (condition : Bool) (ty : Ty) : Ty :=
  if condition then .optional ty.unwrapped.1 else ty

/-- A member of a value. A member of an optional is optional itself. -/
def selectMember (span : ByteSpan) (receiver : Ty) (field : String) (isOptional : Bool) : Typed :=
  let (held, wrapped) := receiver.unwrapped
  match held.memberType? with
  | some ty => ⟨ty.optionalIf (wrapped || isOptional), []⟩
  | none => .fault span (.undefinedField field held)

/-- An element of a value. An element of an optional is optional itself. -/
def Scope.selectElement (scope : Scope) (span : ByteSpan) (receiver key : Ty) (isOptional : Bool) :
    Typed :=
  let (held, wrapped) := receiver.unwrapped
  let found := scope.apply span "_[_]" false [held, key]
  { found with ty := found.ty.optionalIf (wrapped || isOptional) }

/-- Whether a value has a member. What has no type has every member. -/
def testMember (span : ByteSpan) (receiver : Ty) (field : String) : Typed :=
  let (held, _) := receiver.unwrapped
  if held = .failure ∨ held.memberType?.isSome then ⟨.bool, []⟩
  else ⟨.bool, [⟨span, .undefinedField field held⟩]⟩

/-- The type of what a loop with one variable runs over. -/
def Ty.itemType : Ty → Ty
  | .list element => element
  | .map key _ => key
  | .optional held => held
  | _ => .dyn

/-- The types of the pairs that a loop with two variables runs over. -/
def Ty.pairTypes : Ty → Ty × Ty
  | .list element => (.int, element)
  | .map key value => (key, value)
  | _ => (.dyn, .dyn)

/-- The scope inside a loop over a range. -/
def Scope.enterLoop (scope : Scope) (item : String) (second : Option String) (range : Ty) : Scope :=
  match second with
  | none => scope.enter item range.itemType
  | some second => (scope.enter item range.pairTypes.1).enter second range.pairTypes.2

/-- The fault of a condition that is no truth value. -/
def conditionIssues (span : ByteSpan) (ty : Ty) : List TypeIssue :=
  if Ty.takes false .bool ty then []
  else [⟨span, .mismatch .bool ty⟩]

/-- The part as what an optional holds. -/
def Typed.held (typed : Typed) : Typed := { typed with ty := typed.ty.unwrapped.1 }

mutual

/-- The type of an expression, with the faults in it. -/
def check (scope : Scope) : Expr → Typed
  | .null _ => ⟨.null, []⟩
  | .bool _ _ => ⟨.bool, []⟩
  | .int _ _ => ⟨.int, []⟩
  | .uint _ _ => ⟨.uint, []⟩
  | .float _ _ _ => ⟨.double, []⟩
  | .string _ _ => ⟨.string, []⟩
  | .bytes _ _ => ⟨.bytes, []⟩
  | .ident span name => scope.ident span name
  | .rootIdent span name => scope.ident span name
  | .list _ elements =>
    let parts := checkElements scope elements
    Typed.after ⟨.list (Ty.joinAll (parts.map Typed.ty)), []⟩ parts
  | .map _ entries =>
    let parts := checkEntries scope entries
    let keys := parts.map fun (key, _) => key.ty
    let values := parts.map fun (_, value) => value.ty
    Typed.after ⟨.map (Ty.joinAll keys) (Ty.joinAll values), []⟩
      (parts.flatMap fun (key, value) => [key, value])
  | .unary span op operand =>
    let operand := check scope operand
    (scope.apply span op.function false [operand.ty]).after [operand]
  | .binary span op left right =>
    let left := check scope left
    let right := check scope right
    (scope.apply span op.function false [left.ty, right.ty]).after [left, right]
  | .conditional _ condition whenTrue whenFalse =>
    let span := condition.span
    let condition := check scope condition
    let whenTrue := check scope whenTrue
    let whenFalse := check scope whenFalse
    Typed.after ⟨whenTrue.ty.merge whenFalse.ty, conditionIssues span condition.ty⟩
      [condition, whenTrue, whenFalse]
  | .member span receiver field isOptional =>
    match scope.dotted? (.member span receiver field isOptional) with
    | some ty => ⟨ty, []⟩
    | none =>
      let receiver := check scope receiver
      (selectMember span receiver.ty field isOptional).after [receiver]
  | .index span receiver key isOptional =>
    let receiver := check scope receiver
    let key := check scope key
    (scope.selectElement span receiver.ty key.ty isOptional).after [receiver, key]
  | .call span (.ident _ name) arguments =>
    let parts := checkAll scope arguments
    (scope.apply span name false (parts.map Typed.ty)).after parts
  | .call span (.member place receiver name isOptional) arguments =>
    match scope.dottedFunction? (.member place receiver name isOptional) with
    | some function =>
      let parts := checkAll scope arguments
      (function.apply span false (parts.map Typed.ty)).after parts
    | none =>
      let parts := check scope receiver :: checkAll scope arguments
      (scope.apply span name true (parts.map Typed.ty)).after parts
  | .call _ callee arguments =>
    Typed.after ⟨.dyn, []⟩ (check scope callee :: checkAll scope arguments)
  | .struct _ typeName fields =>
    Typed.after ⟨(typeName.dottedName?.map Ty.message).getD .dyn, []⟩ (checkFields scope fields)
  | .comprehension _ item second range accumulator start condition step result =>
    let range := check scope range
    let start := check scope start
    let inside := (scope.enterLoop item second range.ty).enter accumulator start.ty
    let condition := check inside condition
    let step := check inside step
    let result := check (scope.enter accumulator (start.ty.merge step.ty)) result
    result.after [range, start, condition, step]
  | .hasField span receiver field =>
    let receiver := check scope receiver
    (testMember span receiver.ty field).after [receiver]
  | .bind _ name value body =>
    let value := check scope value
    (check (scope.enter name value.ty) body).after [value]
  | .error _ => ⟨.failure, []⟩

def checkAll (scope : Scope) : List Expr → List Typed
  | [] => []
  | expr :: rest => check scope expr :: checkAll scope rest

def checkElements (scope : Scope) : List Element → List Typed
  | [] => []
  | .mk _ value :: rest => check scope value :: checkElements scope rest

def checkEntries (scope : Scope) : List Entry → List (Typed × Typed)
  | [] => []
  | .mk isOptional key value :: rest =>
    let value := check scope value
    (check scope key, if isOptional then value.held else value) :: checkEntries scope rest

def checkFields (scope : Scope) : List Field → List Typed
  | [] => []
  | .mk _ _ value :: rest => check scope value :: checkFields scope rest

end

/-- The faults in the types of an expression. -/
def Environment.issues (environment : Environment) (expr : Expr) : List TypeIssue :=
  (check ⟨environment, []⟩ expr).issues

end CelWatch
