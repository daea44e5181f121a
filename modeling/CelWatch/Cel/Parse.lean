import CelWatch.Cel.Lexer
import CelWatch.Cel.Macro

/-!
From lexemes to a syntax tree. The lexemes are read once, from left to right.
What has been read is kept as the operators that wait for their right operand
and the brackets that are open, each with the operators outside it; what the
next lexeme may be is a `Place`. The first lexeme that cannot stand at its
place is the error.
-/

namespace CelWatch.Cel

/-- An operator whose last operand is not complete. -/
inductive Operator where
  | unary (op : UnaryOp) (start : Nat)
  | binary (op : BinaryOp) (left : Expr)
  /-- A conditional up to and with its colon. -/
  | whenFalse (condition whenTrue : Expr)

/-- An open bracket with what is complete in it. -/
inductive Bracket where
  | parenthesis
  /-- Between the question mark and the colon of a conditional. -/
  | whenTrue (condition : Expr)
  | element (start : Nat) (done : List Element) (isOptional : Bool)
  | key (start : Nat) (done : List Entry) (isOptional : Bool)
  | value (start : Nat) (done : List Entry) (isOptional : Bool) (key : Expr)
  | field (typeName : Expr) (done : List Field) (isOptional : Bool) (name : String)
  | argument (callee : Expr) (done : List Expr)
  | index (receiver : Expr) (isOptional : Bool)

/-- What may come next. -/
inductive Place where
  /-- An operand must start. -/
  | operand
  /-- An operand is complete. -/
  | after (operand : Expr)
  /-- An operand is complete, and nothing may be selected from it. -/
  | afterWhole (operand : Expr)
  /-- The list may end or go on. -/
  | element (start : Nat) (done : List Element)
  /-- The map may end or go on. -/
  | entry (start : Nat) (done : List Entry)
  /-- The message may end or go on. -/
  | field (typeName : Expr) (done : List Field)
  /-- The name of a field must come. -/
  | fieldName (typeName : Expr) (done : List Field) (isOptional : Bool)
  /-- The colon after the name of a field must come. -/
  | fieldColon (typeName : Expr) (done : List Field) (isOptional : Bool) (name : String)
  /-- The arguments may end or go on. -/
  | argument (callee : Expr) (done : List Expr)
  /-- After the opening bracket of an index. -/
  | subscript (receiver : Expr)
  /-- After a dot. -/
  | selector (receiver : Expr) (isOptional : Bool)
  /-- After a dot that starts an operand. -/
  | rootName (start : Nat)

structure ParseState where
  brackets : List (Bracket × List Operator)
  operators : List Operator
  place : Place

/-- Why reading stops. -/
inductive Halt where
  | at (error : SyntaxError)
  /-- The error is shown where the next lexeme starts. -/
  | past (cause : SyntaxCause)

/-- How tightly an operator holds its last operand. -/
def Operator.precedence : Operator → Nat
  | .unary _ _ => 6
  | .binary op _ => op.precedence
  | .whenFalse _ _ => 0

/-- An operator with its last operand. -/
def Operator.apply (operand : Expr) : Operator → Expr
  | .unary op start => .unary ⟨start, operand.span.stop⟩ op operand
  | .binary op left => .binary ⟨left.span.start, operand.span.stop⟩ op left operand
  | .whenFalse condition whenTrue =>
    .conditional ⟨condition.span.start, operand.span.stop⟩ condition whenTrue operand

/-- The operand with the operators that hold it at least as tightly as `level`. -/
def joinDown (level : Nat) (operand : Expr) : List Operator → List Operator × Expr
  | [] => ([], operand)
  | op :: rest =>
    if level ≤ op.precedence then joinDown level (op.apply operand) rest else (op :: rest, operand)

/-- The operand with all operators that wait for it. -/
def joinAll (operand : Expr) (operators : List Operator) : Expr :=
  operators.foldl Operator.apply operand

/-- What must follow the expression inside a bracket. -/
def Bracket.closer : Bracket → Char
  | .parenthesis => ')'
  | .whenTrue _ => ':'
  | .element _ _ _ => ']'
  | .key _ _ _ => ':'
  | .value _ _ _ _ => '\x7d'
  | .field _ _ _ _ => '\x7d'
  | .argument _ _ => ')'
  | .index _ _ => ']'

/-- The binary operator that a token stands for. -/
def Token.binaryOp? : Token → Option BinaryOp
  | .in => some .in
  | .mark .or => some .or
  | .mark .and => some .and
  | .mark .equal => some .equal
  | .mark .notEqual => some .notEqual
  | .mark .less => some .less
  | .mark .lessEqual => some .lessEqual
  | .mark .greater => some .greater
  | .mark .greaterEqual => some .greaterEqual
  | .mark .plus => some .add
  | .mark .minus => some .subtract
  | .mark .star => some .multiply
  | .mark .slash => some .divide
  | .mark .percent => some .remainder
  | _ => none

/-- The name that a token gives to a member or a field. -/
def Token.selectorName? : Token → Option String
  | .ident name => some name
  | .reserved word => some word
  | _ => none

namespace ParseState

def initial : ParseState := ⟨[], [], .operand⟩

/-- An operand is complete. -/
def complete (state : ParseState) (operand : Expr) : ParseState :=
  { state with place := .after operand }

/-- Goes on to an operand inside a bracket. -/
def enter (state : ParseState) (bracket : Bracket) : ParseState :=
  ⟨(bracket, state.operators) :: state.brackets, [], .operand⟩

/-- An operator that waits for an operand. -/
def await (state : ParseState) (operator : Operator) : ParseState :=
  { state with operators := operator :: state.operators, place := .operand }

def go (state : ParseState) (place : Place) : Except Halt ParseState :=
  .ok { state with place := place }

/-- The smallest negative number, whose magnitude no positive number has, is
read together with its sign. -/
def smallestInt (state : ParseState) (span : ByteSpan) : Except Halt ParseState :=
  match state.operators with
  | .unary .negate start :: rest =>
    .ok { state with
      operators := rest
      place := .afterWhole (.int ⟨start, span.stop⟩ (-(Nat.pow 2 63 : Nat))) }
  | _ => .error (.at ⟨span.start, .integerOverflow⟩)

/-- An operand starts with the lexeme. -/
def startOperand (state : ParseState) (lexeme : Lexeme) : Except Halt ParseState :=
  let span := lexeme.span
  let done (operand : Expr) : Except Halt ParseState := .ok (state.complete operand)
  match lexeme.token with
  | .int value => done (.int span value)
  | .minMagnitude => state.smallestInt span
  | .uint value => done (.uint span value)
  | .float mantissa exponent => done (.float span mantissa exponent)
  | .string value => done (.string span value)
  | .bytes value => done (.bytes span value)
  | .true => done (.bool span true)
  | .false => done (.bool span false)
  | .null => done (.null span)
  | .ident name => done (.ident span name)
  | .reserved word => .error (.at ⟨span.start, .reservedWord word⟩)
  | .mark .dot => state.go (.rootName span.start)
  | .mark .leftParen => .ok (state.enter .parenthesis)
  | .mark .leftBracket => state.go (.element span.start [])
  | .mark .leftBrace => state.go (.entry span.start [])
  | .mark .bang => .ok (state.await (.unary .not span.start))
  | .mark .minus => .ok (state.await (.unary .negate span.start))
  | token => .error (.at ⟨span.start, .unexpectedToken token⟩)

/-- An operand starts, inside a bracket, with the lexeme. -/
def startInside (state : ParseState) (bracket : Bracket) (lexeme : Lexeme) :
    Except Halt ParseState :=
  (state.enter bracket).startOperand lexeme

/-- The call that ends at `stop` is complete. -/
def call (state : ParseState) (stop : Nat) (callee : Expr) (arguments : List Expr) :
    Except Halt ParseState :=
  match Macro.expand ⟨callee.span.start, stop⟩ callee arguments with
  | .ok expr => .ok (state.complete expr)
  | .error error => .error (.at error)

/-- The expression inside the bracket is complete, and the lexeme ends it. -/
def leave (state : ParseState) (bracket : Bracket) (inner : Expr) (lexeme : Lexeme) :
    Except Halt ParseState :=
  let stop := lexeme.span.stop
  match bracket, lexeme.token with
  | .parenthesis, .mark .rightParen => .ok (state.complete inner)
  | .whenTrue condition, .mark .colon => .ok (state.await (.whenFalse condition inner))
  | .element start done isOptional, .mark .comma =>
    state.go (.element start (done ++ [.mk isOptional inner]))
  | .element start done isOptional, .mark .rightBracket =>
    .ok (state.complete (.list ⟨start, stop⟩ (done ++ [.mk isOptional inner])))
  | .key start done isOptional, .mark .colon => .ok (state.enter (.value start done isOptional inner))
  | .value start done isOptional key, .mark .comma =>
    state.go (.entry start (done ++ [.mk isOptional key inner]))
  | .value start done isOptional key, .mark .rightBrace =>
    .ok (state.complete (.map ⟨start, stop⟩ (done ++ [.mk isOptional key inner])))
  | .field typeName done isOptional name, .mark .comma =>
    state.go (.field typeName (done ++ [.mk isOptional name inner]))
  | .field typeName done isOptional name, .mark .rightBrace =>
    .ok (state.complete
      (.struct ⟨typeName.span.start, stop⟩ typeName (done ++ [.mk isOptional name inner])))
  | .argument callee done, .mark .comma => state.go (.argument callee (done ++ [inner]))
  | .argument callee done, .mark .rightParen => state.call stop callee (done ++ [inner])
  | .index receiver isOptional, .mark .rightBracket =>
    .ok (state.complete (.index ⟨receiver.span.start, stop⟩ receiver inner isOptional))
  | bracket, token => .error (.at ⟨lexeme.span.start, .expectedMark bracket.closer (some token)⟩)

/-- Where a token leads that takes something from the operand before it, calls
it, or fills in the message that it names. -/
def suffix? (operand : Expr) : Token → Option Place
  | .mark .dot => some (.selector operand false)
  | .mark .leftBracket => some (.subscript operand)
  | .mark .leftParen => some (.argument operand [])
  | .mark .leftBrace => if operand.endsInName then some (.field operand []) else none
  | _ => none

/-- The lexeme joins the operand to another or ends the expression. -/
def afterWhole (state : ParseState) (operand : Expr) (lexeme : Lexeme) : Except Halt ParseState :=
  match lexeme.token, lexeme.token.binaryOp? with
  | .mark .question, _ =>
    let (operators, condition) := joinDown 1 operand state.operators
    .ok ({ state with operators := operators }.enter (.whenTrue condition))
  | _, some op =>
    let (operators, left) := joinDown op.precedence operand state.operators
    .ok ({ state with operators := operators }.await (.binary op left))
  | _, none =>
    match state.brackets with
    | [] => .error (.at ⟨lexeme.span.start, .trailingTokens⟩)
    | (bracket, operators) :: brackets =>
      leave ⟨brackets, operators, .operand⟩ bracket (joinAll operand state.operators) lexeme

/-- The lexeme goes on from the operand or ends the expression. -/
def afterOperand (state : ParseState) (operand : Expr) (lexeme : Lexeme) :
    Except Halt ParseState :=
  match suffix? operand lexeme.token with
  | some place => state.go place
  | none => state.afterWhole operand lexeme

/-- The name of a field must stand at the lexeme. -/
def fieldName (state : ParseState) (typeName : Expr) (done : List Field) (isOptional : Bool)
    (lexeme : Lexeme) : Except Halt ParseState :=
  match lexeme.token.selectorName? with
  | some name => state.go (.fieldColon typeName done isOptional name)
  | none => .error (.past (.expectedFieldName (some lexeme.token)))

/-- One lexeme further. -/
def step (state : ParseState) (lexeme : Lexeme) : Except Halt ParseState :=
  let stop := lexeme.span.stop
  match state.place, lexeme.token with
  | .operand, _ => state.startOperand lexeme
  | .after operand, _ => state.afterOperand operand lexeme
  | .afterWhole operand, _ => state.afterWhole operand lexeme
  | .element start done, .mark .rightBracket => .ok (state.complete (.list ⟨start, stop⟩ done))
  | .element start done, .mark .question => .ok (state.enter (.element start done true))
  | .element start done, _ => state.startInside (.element start done false) lexeme
  | .entry start done, .mark .rightBrace => .ok (state.complete (.map ⟨start, stop⟩ done))
  | .entry start done, .mark .question => .ok (state.enter (.key start done true))
  | .entry start done, _ => state.startInside (.key start done false) lexeme
  | .field typeName done, .mark .rightBrace =>
    .ok (state.complete (.struct ⟨typeName.span.start, stop⟩ typeName done))
  | .field typeName done, .mark .question => state.go (.fieldName typeName done true)
  | .field typeName done, _ => state.fieldName typeName done false lexeme
  | .fieldName typeName done isOptional, _ => state.fieldName typeName done isOptional lexeme
  | .fieldColon typeName done isOptional name, .mark .colon =>
    .ok (state.enter (.field typeName done isOptional name))
  | .fieldColon _ _ _ _, token =>
    .error (.at ⟨lexeme.span.start, .expectedMark ':' (some token)⟩)
  | .argument callee done, .mark .rightParen => state.call stop callee done
  | .argument callee done, _ => state.startInside (.argument callee done) lexeme
  | .subscript receiver, .mark .question => .ok (state.enter (.index receiver true))
  | .subscript receiver, _ => state.startInside (.index receiver false) lexeme
  | .selector receiver false, .mark .question => state.go (.selector receiver true)
  | .selector receiver isOptional, token =>
    match token.selectorName? with
    | some name =>
      .ok (state.complete (.member ⟨receiver.span.start, stop⟩ receiver name isOptional))
    | none => .error (.past (.expectedSelector (some token)))
  | .rootName start, .ident name => .ok (state.complete (.rootIdent ⟨start, stop⟩ name))
  | .rootName _, _ => .error (.past .expectedRootName)

/-- The operand is the last one of the text. -/
def finishAfter (state : ParseState) (operand : Expr) : Except SyntaxCause Expr :=
  match state.brackets with
  | [] => .ok (joinAll operand state.operators)
  | (bracket, _) :: _ => .error (.expectedMark bracket.closer none)

/-- The expression, when no lexeme is left. -/
def finish (state : ParseState) : Except SyntaxCause Expr :=
  match state.place with
  | .after operand => state.finishAfter operand
  | .afterWhole operand => state.finishAfter operand
  | .field _ _ => .error (.expectedFieldName none)
  | .fieldName _ _ _ => .error (.expectedFieldName none)
  | .fieldColon _ _ _ _ => .error (.expectedMark ':' none)
  | .selector _ _ => .error (.expectedSelector none)
  | .rootName _ => .error .expectedRootName
  | _ => .error .unexpectedEnd

end ParseState

/-- Where the first of the lexemes starts, or the end of the input. -/
def startOf (stop : Nat) : List Lexeme → Nat
  | [] => stop
  | lexeme :: _ => lexeme.span.start

/-- The expression that the lexemes complete. `stop` is where the last lexeme
ends. -/
def parseFrom (stop : Nat) (state : ParseState) : List Lexeme → Except SyntaxError Expr
  | [] =>
    match state.finish with
    | .ok expr => .ok expr
    | .error cause => .error ⟨stop, cause⟩
  | lexeme :: rest =>
    match state.step lexeme with
    | .ok next => parseFrom stop next rest
    | .error (.at error) => .error error
    | .error (.past cause) => .error ⟨startOf stop rest, cause⟩

/-- The expression that a text is. A text that cannot be cut into lexemes is
refused before anything else is looked at. -/
def parse (text : String) : Except SyntaxError Expr :=
  match lexemes text.toList with
  | .error error => .error ⟨error.offset, .unexpectedCharacter error.slice⟩
  | .ok found =>
    match found.getLast? with
    | none => .error ⟨0, .emptyInput⟩
    | some last => parseFrom last.span.stop ParseState.initial found

end CelWatch.Cel
