import CelWatch.Json.Basic
import CelWatch.Json.Token

/-!
Reading JSON. The reader takes the lexemes one by one and keeps a stack of the
arrays and objects that are still open.
-/

namespace CelWatch.Json

/-- An array or object that is still open, its parts in reverse. -/
inductive Frame where
  | array (items : List Json)
  | object (members : List (String × Json)) (name : String)

/-- What the reader admits next. -/
inductive Expected where
  | value
  | valueOrClose
  | name
  | nameOrClose
  | colon
  | commaOrClose
  | nothing
deriving DecidableEq

structure Reader where
  stack : List Frame
  expected : Expected
  result : Json

namespace Reader

def start : Reader := ⟨[], .value, .null⟩

/-- Puts a finished value into the innermost open frame. -/
def accept (stack : List Frame) (value : Json) : Reader :=
  match stack with
  | [] => ⟨[], .nothing, value⟩
  | .array items :: rest => ⟨.array (value :: items) :: rest, .commaOrClose, .null⟩
  | .object members name :: rest =>
    ⟨.object ((name, value) :: members) name :: rest, .commaOrClose, .null⟩

def scalar? : Token → Option Json
  | .string value => some (.string value)
  | .number mantissa exponent => some (.number mantissa exponent)
  | .true => some (.bool Bool.true)
  | .false => some (.bool Bool.false)
  | .null => some .null
  | _ => none

/-- Takes one lexeme, or refuses it. -/
def step? (reader : Reader) (token : Token) : Option Reader :=
  let stack := reader.stack
  match reader.expected, token, stack with
  | .valueOrClose, .closeArray, .array items :: rest => some (accept rest (.array items.reverse))
  | .commaOrClose, .closeArray, .array items :: rest => some (accept rest (.array items.reverse))
  | .commaOrClose, .comma, .array _ :: _ => some { reader with expected := .value }
  | .nameOrClose, .closeObject, .object members _ :: rest =>
    some (accept rest (.object members.reverse))
  | .commaOrClose, .closeObject, .object members _ :: rest =>
    some (accept rest (.object members.reverse))
  | .commaOrClose, .comma, .object _ _ :: _ => some { reader with expected := .name }
  | .name, .string name, .object members _ :: rest =>
    some ⟨.object members name :: rest, .colon, .null⟩
  | .nameOrClose, .string name, .object members _ :: rest =>
    some ⟨.object members name :: rest, .colon, .null⟩
  | .colon, .colon, _ => some { reader with expected := .value }
  | .value, token, _ => value? stack token
  | .valueOrClose, token, _ => value? stack token
  | _, _, _ => none
where
  value? (stack : List Frame) : Token → Option Reader
    | .openArray => some ⟨.array [] :: stack, .valueOrClose, .null⟩
    | .openObject => some ⟨.object [] "" :: stack, .nameOrClose, .null⟩
    | token => (scalar? token).map (accept stack)

end Reader

/-- The value that a list of lexemes writes. -/
def ofTokens? (tokens : List Token) : Option Json := do
  let reader ← tokens.foldlM Reader.step? Reader.start
  if reader.expected = .nothing then some reader.result else none

/-- Reads the text of one value. -/
def parse? (text : String) : Option Json := do
  ofTokens? (← tokens? text)

end CelWatch.Json
