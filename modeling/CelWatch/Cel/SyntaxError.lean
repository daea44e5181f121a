import CelWatch.Cel.Token

/-!
Why a text is no CEL expression, and where.
-/

namespace CelWatch.Cel

inductive SyntaxCause where
  | emptyInput
  /-- No lexeme starts here. -/
  | unexpectedCharacter (slice : String)
  | unexpectedEnd
  | unexpectedToken (token : Token)
  /-- The expression is complete and text follows it. -/
  | trailingTokens
  | expectedMark (mark : Char) (found : Option Token)
  | expectedSelector (found : Option Token)
  | expectedRootName
  | expectedFieldName (found : Option Token)
  | reservedWord (word : String)
  /-- A whole number that is only the magnitude of the smallest negative one. -/
  | integerOverflow
  /-- A macro takes one of the given numbers of arguments. -/
  | macroArity (name : String) (allowed : List Nat) (given : Nat)
  | hasArgument
  | iterationVariable
  | bindName
  | blockList
  | blockEmpty
  /-- An argument of a macro must be a whole number; `place` says which one. -/
  | indexLiteral (name place : String)
  | extensionName (name : String)
deriving DecidableEq, Repr

/-- A syntax error at a byte of the text. -/
structure SyntaxError where
  offset : Nat
  cause : SyntaxCause
deriving DecidableEq, Repr

namespace SyntaxCause

/-- What was met in place of what was expected. -/
def foundText : Option Token → String
  | none => "None"
  | some token => "Some(" ++ token.describe ++ ")"

/-- Numbers of arguments as a message gives them. -/
def arityText : List Nat → String
  | [1] => "exactly 1 argument"
  | [n] => "exactly " ++ toString n ++ " arguments"
  | counts => String.intercalate " or " (counts.map toString) ++ " arguments"

def message : SyntaxCause → String
  | .emptyInput => "empty input"
  | .unexpectedCharacter slice => "unexpected character '" ++ slice ++ "'"
  | .unexpectedEnd => "unexpected end of input"
  | .unexpectedToken token => "unexpected token: " ++ token.describe
  | .trailingTokens => "unexpected tokens after expression"
  | .expectedMark mark found =>
    "expected '" ++ String.singleton mark ++ "', found " ++ foundText found
  | .expectedSelector found => "expected identifier after '.', found " ++ foundText found
  | .expectedRootName => "expected identifier after '.'"
  | .expectedFieldName found => "expected field name, found " ++ foundText found
  | .reservedWord word =>
    "'" ++ word ++ "' is a reserved word and cannot be used as an identifier"
  | .integerOverflow => "integer literal '" ++ minMagnitudeText ++ "' overflows i64"
  | .macroArity name allowed given =>
    name ++ "() requires " ++ arityText allowed ++ ", got " ++ toString given
  | .hasArgument => "has() argument must be a field selection (e.g., has(m.x))"
  | .iterationVariable => "iteration variable must be an identifier"
  | .bindName => "cel.bind() first argument must be an identifier"
  | .blockList => "cel.block() first argument must be a list literal"
  | .blockEmpty => "cel.block() first argument must be a non-empty list"
  | .indexLiteral name place => name ++ "() " ++ place ++ " must be an integer literal"
  | .extensionName name =>
    name ++ "() second argument must be a qualified identifier (e.g., pkg.ExtField)"

end SyntaxCause

end CelWatch.Cel
