import CelWatch.Toml.Scalar
import CelWatch.Toml.Table

/-!
Reading TOML. The reader takes the lexemes one by one. It knows the table that
the last header opened, and keeps a stack of the arrays and inline tables that
are still open.
-/

namespace CelWatch.Toml

/-- How deep values may nest and how many names a key may have, less one. -/
def depthLimit : Nat := 80

/-- A key that is being read, its names in reverse. -/
structure Key where
  names : List String
  /-- Whether a name must follow, as at the start and after a dot. -/
  expectsName : Bool
deriving DecidableEq, Repr

namespace Key

def start : Key := ⟨[], true⟩

def name? (key : Key) (name : String) : Option Key :=
  if key.expectsName then some ⟨name :: key.names, false⟩ else none

def dot? (key : Key) : Option Key :=
  if key.expectsName then none else some { key with expectsName := true }

/-- Takes a name without quotes. -/
def bareName? (key : Key) (name : List Char) : Option Key :=
  if name.all isKeyChar then key.name? (String.ofList name) else none

/-- Takes a word: names with dots between them, and maybe at its ends. `piece`
holds, in reverse, what was read of a name. -/
def word? (key : Key) (piece : List Char) : List Char → Option Key
  | [] => if piece.isEmpty then some key else key.bareName? piece.reverse
  | c :: rest =>
    if c = '.' then do
      let key ← if piece.isEmpty then some key else key.bareName? piece.reverse
      word? (← key.dot?) [] rest
    else word? key (c :: piece) rest

/-- Takes one lexeme of a key. -/
def step? (key : Key) : Token → Option Key
  | .word text => key.word? [] text
  | .text value false => key.name? value
  | _ => none

/-- The names of a key that was read to its end: those it passes through and
the last one. -/
def path? (key : Key) : Option (List String × String) :=
  match key with
  | ⟨last :: before, false⟩ =>
    if before.length + 1 < depthLimit then some (before.reverse, last) else none
  | _ => none

end Key

/-- An array or inline table that is still open; `key` is the key of the value
that is being read. -/
inductive Frame where
  | array (reversed : List Value)
  | table (members : Members) (key : Key)

/-- What the reader admits next. -/
inductive Expected where
  /-- The start of a line. -/
  | line
  /-- The rest of a line that begins with a bracket. -/
  | bracket
  /-- The key of a header; `isRow` for one between two brackets. -/
  | header (isRow : Bool) (key : Key)
  /-- The second closing bracket of a header. -/
  | headerEnd (key : Key)
  | lineEnd
  /-- The rest of a key in the innermost table. -/
  | key (key : Key)
  | keyOrClose
  | value
  | valueOrClose
  /-- A comma or the end of the innermost array or inline table. -/
  | commaOrClose

structure Reader where
  root : Members
  /-- The path of the table that assignments go to. -/
  header : List String
  /-- The key of the assignment that is being read. -/
  key : Key
  stack : List Frame
  expected : Expected

namespace Reader

def start : Reader := ⟨[], [], .start, [], .line⟩

/-- Opens what a header names. -/
def openHeader? (reader : Reader) (isRow : Bool) (key : Key) : Option Reader := do
  let (path, name) ← key.path?
  let change := if isRow then Members.openRow? name else Members.openTable? name
  let root ← reader.root.atHeader? change path
  pure { reader with root, header := path ++ [name], expected := .lineEnd }

/-- Puts a finished value where the innermost open frame wants it. -/
def accept? (reader : Reader) (stack : List Frame) (value : Value) : Option Reader :=
  match stack with
  | [] => do
    let (path, name) ← reader.key.path?
    let root ← reader.root.atHeader? (Members.assign? name value path) reader.header
    pure { reader with root, stack := [], expected := .lineEnd }
  | .array reversed :: rest =>
    some { reader with stack := .array (value :: reversed) :: rest, expected := .commaOrClose }
  | .table members key :: rest => do
    let (path, name) ← key.path?
    let members ← members.assign? name value path
    pure { reader with stack := .table members .start :: rest, expected := .commaOrClose }

/-- Opens an array or inline table. -/
def push? (reader : Reader) (frame : Frame) (expected : Expected) : Option Reader :=
  if reader.stack.length + 1 < depthLimit then
    some { reader with stack := frame :: reader.stack, expected }
  else none

/-- Takes the first lexeme of a value. -/
def value? (reader : Reader) : Token → Option Reader
  | .openBracket _ => reader.push? (.array []) .valueOrClose
  | .openBrace => reader.push? (.table [] .start) .keyOrClose
  | .text value _ => reader.accept? reader.stack (.string value)
  | .word word => do reader.accept? reader.stack (← Scalar.ofWord? word)
  | _ => none

/-- Takes one lexeme more of a key. -/
def key? (reader : Reader) (key : Key) (token : Token) : Option Reader := do
  pure { reader with expected := .key (← key.step? token) }

/-- Ends a key before its value. -/
def assignKey (reader : Reader) (key : Key) : Reader :=
  match reader.stack with
  | .table members _ :: rest => { reader with stack := .table members key :: rest, expected := .value }
  | _ => { reader with key, expected := .value }

/-- Closes the innermost array or inline table. -/
def close? (reader : Reader) : Token → Option Reader
  | .closeBracket _ =>
    match reader.stack with
    | .array reversed :: rest => reader.accept? rest (.array reversed.reverse)
    | _ => none
  | .closeBrace =>
    match reader.stack with
    | .table members _ :: rest => reader.accept? rest (.table .inline members)
    | _ => none
  | _ => none

/-- Whether an array is the innermost open frame. Only there line ends do not
count. -/
def isInArray (reader : Reader) : Bool :=
  match reader.stack with
  | .array _ :: _ => true
  | _ => false

/-- Takes a lexeme of a header. -/
def headerStep? (reader : Reader) (isRow : Bool) (key : Key) (token : Token) : Option Reader :=
  match token with
  | .closeBracket _ =>
    if isRow then some { reader with expected := .headerEnd key }
    else reader.openHeader? false key
  | _ => do pure { reader with expected := .header isRow (← key.step? token) }

/-- Takes one lexeme, or refuses it. -/
def step? (reader : Reader) (token : Token) : Option Reader :=
  match reader.expected with
  | .line =>
    match token with
    | .newline => some reader
    | .openBracket _ => some { reader with expected := .bracket }
    | _ => reader.key? .start token
  | .bracket =>
    match token with
    | .openBracket true => some { reader with expected := .header true .start }
    | _ => reader.headerStep? false .start token
  | .header isRow key => reader.headerStep? isRow key token
  | .headerEnd key =>
    match token with
    | .closeBracket true => reader.openHeader? true key
    | _ => none
  | .lineEnd =>
    match token with
    | .newline => some { reader with expected := .line }
    | _ => none
  | .key key =>
    match token with
    | .equals => some (reader.assignKey key)
    | _ => reader.key? key token
  | .keyOrClose =>
    match token with
    | .closeBrace => reader.close? token
    | _ => reader.key? .start token
  | .value => if reader.isInArray && token = .newline then some reader else reader.value? token
  | .valueOrClose =>
    match token with
    | .newline => some reader
    | .closeBracket _ => reader.close? token
    | _ => reader.value? token
  | .commaOrClose =>
    match token with
    | .newline => if reader.isInArray then some reader else none
    | .comma =>
      some { reader with expected := if reader.isInArray then .valueOrClose else .key .start }
    | _ => reader.close? token

/-- The document, when it may end here. -/
def finish? (reader : Reader) : Option Members :=
  match reader.expected with
  | .line => some reader.root
  | .lineEnd => some reader.root
  | _ => none

end Reader

/-- The members of the document that a list of lexemes writes. -/
def ofTokens? (tokens : List Token) : Option Members := do
  (← tokens.foldlM Reader.step? Reader.start).finish?

/-- Reads the text of a document. -/
def parse? (text : String) : Option Members := do
  ofTokens? (← tokens? text)

end CelWatch.Toml
