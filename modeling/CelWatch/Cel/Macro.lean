import CelWatch.Cel.Expr
import CelWatch.Cel.SyntaxError

/-!
Macros: calls that stand for another expression. A macro is known by its name
and the form of its call; a call of a macro that does not have the macro's
arguments is a syntax error. The nodes that a macro brings in stand for the
whole call, so that an error found in one of them is shown there.
-/

namespace CelWatch.Cel.Macro

/-- A call that may be a macro's. -/
structure Call where
  span : ByteSpan
  arguments : List Expr

/-- The error of a call, shown at its start. -/
def Call.fail {α : Type} (call : Call) (cause : SyntaxCause) : Except SyntaxError α :=
  .error ⟨call.span.start, cause⟩

def Call.arity {α : Type} (call : Call) (name : String) (allowed : List Nat) :
    Except SyntaxError α :=
  call.fail (.macroArity name allowed call.arguments.length)

/-- The name that an argument gives to the item of a loop. -/
def itemName : Expr → Except SyntaxError String
  | .ident _ name => .ok name
  | other => .error ⟨other.span.start, .iterationVariable⟩

/-- The name of the value that a loop builds up. It hides every other variable
of that name. -/
def accumulator : String := "__result__"

namespace Call

def value (call : Call) : Expr := .ident call.span accumulator

def yes (call : Call) : Expr := .bool call.span true

def singleton (call : Call) (element : Expr) : Expr := .list call.span [.mk false element]

/-- The built-up value with something added. -/
def grown (call : Call) (more : Expr) : Expr := .binary call.span .add call.value more

/-- `step` where the test holds, and no change elsewhere. -/
def unlessFalse (call : Call) (test : Option Expr) (step : Expr) : Expr :=
  match test with
  | none => step
  | some test => .conditional call.span test step call.value

end Call

/-- What a loop does at each item: the variables, the range, and the call. -/
structure Loop where
  call : Call
  range : Expr
  item : String
  second : Option String

namespace Loop

def build (loop : Loop) (start condition step result : Expr) : Expr :=
  .comprehension loop.call.span loop.item loop.second loop.range accumulator start condition step
    result

/-- Whether the test holds for every item. -/
def all (loop : Loop) (test : Expr) : Expr :=
  let call := loop.call
  loop.build call.yes call.value (.binary call.span .and test call.value) call.value

/-- Whether the test holds for an item. -/
def any (loop : Loop) (test : Expr) : Expr :=
  let call := loop.call
  loop.build (.bool call.span false) (.unary call.span .not call.value)
    (.binary call.span .or test call.value) call.value

/-- Whether the test holds for one item and no other. -/
def one (loop : Loop) (test : Expr) : Expr :=
  let call := loop.call
  loop.build (.int call.span 0) call.yes
    (call.unlessFalse (some test) (call.grown (.int call.span 1)))
    (.binary call.span .equal call.value (.int call.span 1))

/-- The list of what the items that pass the test become. -/
def list (loop : Loop) (test : Option Expr) (element : Expr) : Expr :=
  let call := loop.call
  loop.build (.list call.span []) call.yes
    (call.unlessFalse test (call.grown (call.singleton element))) call.value

/-- The map of what the values that pass the test become. -/
def map (loop : Loop) (test : Option Expr) (value : Expr) : Expr :=
  let call := loop.call
  let entry := Entry.mk false (.ident call.span loop.item) value
  loop.build (.map call.span []) call.yes
    (call.unlessFalse test (call.grown (.map call.span [entry]))) call.value

end Loop

/-- A loop that has one variable. -/
def loop (call : Call) (range item : Expr) : Except SyntaxError Loop := do
  pure ⟨call, range, ← itemName item, none⟩

/-- A loop over pairs of a key, or an index, and a value. -/
def pairLoop (call : Call) (range item second : Expr) : Except SyntaxError Loop := do
  let item ← itemName item
  let second ← itemName second
  pure ⟨call, range, item, some second⟩

/-- A test over the items of a range, with one variable or two. -/
def quantifier (name : String) (build : Loop → Expr → Expr) (call : Call) (range : Expr) :
    Except SyntaxError Expr :=
  match call.arguments with
  | [item, test] => do pure (build (← loop call range item) test)
  | [item, second, test] => do pure (build (← pairLoop call range item second) test)
  | _ => call.arity name [2, 3]

def mapLoop (call : Call) (range : Expr) : Except SyntaxError Expr :=
  match call.arguments with
  | [item, element] => do pure ((← loop call range item).list none element)
  | [item, test, element] => do pure ((← loop call range item).list (some test) element)
  | _ => call.arity "map" [2, 3]

def filterLoop (call : Call) (range : Expr) : Except SyntaxError Expr :=
  match call.arguments with
  | [item, test] => do
    let made ← loop call range item
    pure (made.list (some test) (.ident call.span made.item))
  | _ => call.arity "filter" [2]

/-- A transformation of pairs, with a test or without. -/
def transform (name : String) (build : Loop → Option Expr → Expr → Expr) (call : Call)
    (range : Expr) : Except SyntaxError Expr :=
  match call.arguments with
  | [item, second, value] => do pure (build (← pairLoop call range item second) none value)
  | [item, second, test, value] => do
    pure (build (← pairLoop call range item second) (some test) value)
  | _ => call.arity name [3, 4]

/-- A call of a method, every node of which stands for the macro's call. -/
def Call.method (call : Call) (receiver : Expr) (name : String) (arguments : List Expr) : Expr :=
  .call call.span (.member call.span receiver name false) arguments

/-- The body with the value of an optional named in it, or no value. -/
def optionalMap (name : String) (finish : Call → Expr → Expr) (call : Call) (receiver : Expr) :
    Except SyntaxError Expr :=
  match call.arguments with
  | [item, body] => do
    let item ← itemName item
    pure (.conditional call.span (call.method receiver "hasValue" [])
      (.bind call.span item (call.method receiver "value" []) (finish call body))
      (call.method (.ident call.span "optional") "none" []))
  | _ => call.arity name [2]

def wrapped (call : Call) (body : Expr) : Expr :=
  call.method (.ident call.span "optional") "of" [body]

/-- Macros that are called on a receiver. -/
def ofReceiver? (name : String) : Option (Call → Expr → Except SyntaxError Expr) :=
  match name with
  | "all" => some (quantifier name Loop.all)
  | "exists" => some (quantifier name Loop.any)
  | "exists_one" => some (quantifier name Loop.one)
  | "existsOne" => some (quantifier name Loop.one)
  | "map" => some mapLoop
  | "filter" => some filterLoop
  | "transformList" => some (transform name Loop.list)
  | "transformMap" => some (transform name Loop.map)
  | "optMap" => some (optionalMap name wrapped)
  | "optFlatMap" => some (optionalMap name fun _ body => body)
  | _ => none

def has (call : Call) : Except SyntaxError Expr :=
  match call.arguments with
  | [.member _ receiver field _] => .ok (.hasField call.span receiver field)
  | [_] => call.fail .hasArgument
  | _ => call.arity "has" [1]

def bind (call : Call) : Except SyntaxError Expr :=
  match call.arguments with
  | [.ident _ name, value, body] => .ok (.bind call.span name value body)
  | [_, _, _] => call.fail .bindName
  | _ => call.arity "cel.bind" [3]

/-- The name of an element of a block. -/
def blockName (index : Int) : String := "@index" ++ toString index

/-- The body with the elements of a block named in it, from the one at `index`
on. -/
def blockBody (span : ByteSpan) (body : Expr) (index : Nat) : List Element → Expr
  | [] => body
  | .mk _ value :: rest => .bind span (blockName index) value (blockBody span body (index + 1) rest)

def block (call : Call) : Except SyntaxError Expr :=
  match call.arguments with
  | [.list _ [], _] => call.fail .blockEmpty
  | [.list _ elements, body] => .ok (blockBody call.span body 0 elements)
  | [_, _] => call.fail .blockList
  | _ => call.arity "cel.block" [2]

def blockIndex (call : Call) : Except SyntaxError Expr :=
  match call.arguments with
  | [.int _ index] => .ok (.ident call.span (blockName index))
  | [_] => call.fail (.indexLiteral "cel.index" "argument")
  | _ => call.arity "cel.index" [1]

/-- A variable of a loop that is known by its depth and its number there. -/
def numbered (name letters : String) (call : Call) : Except SyntaxError Expr :=
  match call.arguments with
  | [.int _ depth, .int _ number] =>
    .ok (.ident call.span ("@" ++ letters ++ ":" ++ toString depth ++ ":" ++ toString number))
  | [.int _ _, _] => call.fail (.indexLiteral name "second argument")
  | [_, _] => call.fail (.indexLiteral name "first argument")
  | _ => call.arity name [2]

/-- A use of an extension field, whose name is spelled as an expression. -/
def extension (name : String) (build : Expr → String → Expr) (call : Call) :
    Except SyntaxError Expr :=
  match call.arguments with
  | [receiver, field] =>
    match field.dottedName? with
    | some field => .ok (build receiver field)
    | none => call.fail (.extensionName name)
  | _ => call.arity name [2]

/-- Macros that are called by their names alone, of which most are dotted. -/
def ofName? (name : String) : Option (Call → Except SyntaxError Expr) :=
  match name with
  | "has" => some has
  | "cel.block" => some block
  | "cel.index" => some blockIndex
  | "cel.iterVar" => some (numbered name "it")
  | "cel.accuVar" => some (numbered name "ac")
  | "proto.getExt" => some fun call =>
    extension name (fun receiver field => .member call.span receiver field false) call
  | "proto.hasExt" => some fun call =>
    extension name (fun receiver field => .hasField call.span receiver field) call
  | _ => none

/-- The macro that a name selected from an identifier is. -/
def ofSpace? (space name : String) : Option (Call → Except SyntaxError Expr) :=
  if space = "cel" ∧ name = "bind" then some bind else ofName? (space ++ "." ++ name)

/-- The expression of a call: what its macro stands for, or the call itself. -/
def expand (span : ByteSpan) (callee : Expr) (arguments : List Expr) : Except SyntaxError Expr :=
  let call : Call := ⟨span, arguments⟩
  let named : Option (Call → Except SyntaxError Expr) := match callee with
    | .ident _ name => ofName? name
    | .member _ (.ident _ space) name _ => ofSpace? space name
    | _ => none
  match named, callee with
  | some ofCall, _ => ofCall call
  | none, .member _ receiver name _ =>
    match ofReceiver? name with
    | some ofCall => ofCall call receiver
    | none => .ok (.call span callee arguments)
  | none, _ => .ok (.call span callee arguments)

end CelWatch.Cel.Macro
