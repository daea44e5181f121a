import CelWatch.Decimal.Shortest
import CelWatch.Text.Quoted
import CelWatch.Text.Slice

/-!
Lexemes of CEL: the tokens, the words that are no identifiers, and the way a
message shows a token.
-/

namespace CelWatch.Cel

/-- Operators and punctuation. -/
inductive Mark where
  | leftParen
  | rightParen
  | leftBracket
  | rightBracket
  | leftBrace
  | rightBrace
  | dot
  | comma
  | colon
  | question
  | plus
  | minus
  | star
  | slash
  | percent
  | bang
  | equal
  | notEqual
  | less
  | lessEqual
  | greater
  | greaterEqual
  | and
  | or
deriving DecidableEq, Repr, Inhabited

inductive Token where
  /-- A whole number without a sign; below `2 ^ 63`. -/
  | int (value : Nat)
  /-- The magnitude `2 ^ 63` of the smallest negative number. -/
  | minMagnitude
  | uint (value : Nat)
  /-- The number `mantissa · 10 ^ exponent`. -/
  | float (mantissa : Nat) (exponent : Int)
  | string (value : String)
  | bytes (value : List UInt8)
  | true
  | false
  | null
  | in
  | reserved (word : String)
  | ident (name : String)
  | mark (mark : Mark)
deriving DecidableEq, Repr, Inhabited

/-- A token and the bytes of the text that it takes. -/
structure Lexeme where
  token : Token
  span : ByteSpan
deriving DecidableEq, Repr, Inhabited

/-- The digits of the magnitude of the smallest negative number. -/
def minMagnitudeText : String := "9223372036854775808"

/-- Words that look like identifiers and are none. -/
def reservedWords : List String :=
  ["as", "break", "const", "continue", "else", "for", "function", "if", "import", "let", "loop",
    "package", "namespace", "return", "var", "void", "while"]

/-- The token of a word. -/
def Token.ofWord (word : String) : Token :=
  match word with
  | "true" => .true
  | "false" => .false
  | "null" => .null
  | "in" => .in
  | _ => if reservedWords.contains word then .reserved word else .ident word

/-- The name of a mark in messages. -/
def Mark.name : Mark → String
  | .leftParen => "LParen"
  | .rightParen => "RParen"
  | .leftBracket => "LBracket"
  | .rightBracket => "RBracket"
  | .leftBrace => "LBrace"
  | .rightBrace => "RBrace"
  | .dot => "Dot"
  | .comma => "Comma"
  | .colon => "Colon"
  | .question => "Question"
  | .plus => "Plus"
  | .minus => "Minus"
  | .star => "Star"
  | .slash => "Slash"
  | .percent => "Percent"
  | .bang => "Not"
  | .equal => "EqEq"
  | .notEqual => "Ne"
  | .less => "Lt"
  | .lessEqual => "Le"
  | .greater => "Gt"
  | .greaterEqual => "Ge"
  | .and => "And"
  | .or => "Or"

/-- The way a message shows a token. -/
def Token.describe : Token → String
  | .int value => "Int(" ++ toString value ++ ")"
  | .minMagnitude => "IntOverflow(" ++ Text.quoted minMagnitudeText.toList ++ ")"
  | .uint value => "UInt(" ++ toString value ++ ")"
  | .float mantissa exponent => "Float(" ++ Decimal.describe mantissa exponent ++ ")"
  | .string value => "String(" ++ Text.quoted value.toList ++ ")"
  | .bytes value => "Bytes([" ++ String.intercalate ", " (value.map (toString ·.toNat)) ++ "])"
  | .true => "True"
  | .false => "False"
  | .null => "Null"
  | .in => "In"
  | .reserved word => "Reserved(" ++ Text.quoted word.toList ++ ")"
  | .ident name => "Ident(" ++ Text.quoted name.toList ++ ")"
  | .mark m => m.name

end CelWatch.Cel
