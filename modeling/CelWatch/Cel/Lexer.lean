import CelWatch.Cel.Token
import CelWatch.Text.Digit
import CelWatch.Text.Utf8

/-!
Cutting a CEL text into lexemes. Blanks and comments, which run from `//` to
the end of the line, separate lexemes and are none. The longest lexeme at a
place is taken; the first place where none starts ends the scan.
-/

namespace CelWatch.Cel

open Text (isDecimal isDigitIn digitsValue digitsValue?)

/-- No lexeme starts at `offset`; `slice` is what was tried there. -/
structure LexError where
  offset : Nat
  slice : String
deriving DecidableEq, Repr

/-- What stands at a place of the text. `more` counts the characters that
belong to it after the first one. -/
inductive Scan where
  | blank (more : Nat)
  | token (token : Token) (more : Nat)
  | failure (more : Nat)
deriving Repr

def isBlankChar (c : Char) : Bool :=
  c = ' ' || c = '\t' || c = '\n' || c = '\r' || c = '\x0c'

def isLetter (c : Char) : Bool :=
  ('a' ≤ c && c ≤ 'z') || ('A' ≤ c && c ≤ 'Z')

def isWordStart (c : Char) : Bool := isLetter c || c = '_'

def isWordChar (c : Char) : Bool := isWordStart c || isDecimal c

/-- An integer literal of `more + 1` characters; a suffix `u` makes it
unsigned. -/
def intScan (value more : Nat) (rest : List Char) : Scan :=
  if rest.head?.any fun c => c = 'u' || c = 'U' then
    if value < Nat.pow 2 64 then .token (.uint value) (more + 1) else .failure (more + 1)
  else if value < Nat.pow 2 63 then .token (.int value) more
  else .failure more

/-- Whether what follows digits looks like more of the same number. -/
def mayContinueNumber (rest : List Char) : Bool :=
  rest.head?.any fun c => c = '.' || c = 'e' || c = 'E' || c = 'u' || c = 'U'

/-- A decimal integer literal. The magnitude of the smallest negative number is
known by its digits alone, and only where the literal surely ends after them. -/
def digitsScan (digits rest : List Char) : Scan :=
  let more := digits.length - 1
  if digits = minMagnitudeText.toList && !mayContinueNumber rest then .token .minMagnitude more
  else intScan (digitsValue 10 digits) more rest

/-- The digits of an exponent, with its sign and the number of characters. -/
def exponent? : List Char → Option (Int × Nat)
  | e :: rest =>
    if e = 'e' ∨ e = 'E' then
      let (sign, signLength, digits) : Int × Nat × List Char := match rest with
        | '+' :: rest => (1, 1, rest.takeWhile isDecimal)
        | '-' :: rest => (-1, 1, rest.takeWhile isDecimal)
        | _ => (1, 0, rest.takeWhile isDecimal)
      if digits.isEmpty then none
      else some (sign * digitsValue 10 digits, 1 + signLength + digits.length)
    else none
  | [] => none

/-- A number without a base mark: `whole` digits, then a fraction and an
exponent, of which either makes it a float. -/
def decimalScan (whole rest : List Char) : Scan :=
  let fraction := match rest with
    | '.' :: rest => rest.takeWhile isDecimal
    | _ => []
  let fractionLength := if fraction.isEmpty then 0 else fraction.length + 1
  let exponent := exponent? (rest.drop fractionLength)
  if fraction.isEmpty && exponent.isNone then
    digitsScan whole rest
  else
    let (power, powerLength) := exponent.getD (0, 0)
    .token (.float (digitsValue 10 (whole ++ fraction)) (power - fraction.length))
      (whole.length + fractionLength + powerLength - 1)

/-- A number that starts with the digit `c`. -/
def numberScan (c : Char) (rest : List Char) : Scan :=
  let hexDigits := match c, rest with
    | '0', 'x' :: rest => rest.takeWhile (isDigitIn 16)
    | '0', 'X' :: rest => rest.takeWhile (isDigitIn 16)
    | _, _ => []
  if hexDigits.isEmpty then
    decimalScan (c :: rest.takeWhile isDecimal) (rest.dropWhile isDecimal)
  else
    intScan (digitsValue 16 hexDigits) (hexDigits.length + 1) (rest.drop (hexDigits.length + 1))

/-- How a quoted literal is written. -/
structure QuoteShape where
  quote : Char
  triple : Bool
  raw : Bool
  bytes : Bool
deriving DecidableEq, Repr

/-- The values that a character outside escapes stands for: its code point, or
its bytes in a byte literal. -/
def QuoteShape.valuesOf (shape : QuoteShape) (c : Char) : List Nat :=
  if shape.bytes then (Text.encode [c]).map UInt8.toNat else [c.toNat]

/-- The value of characters that are all digits of the base. -/
def escapeDigits? (base : Nat) (digits : List Char) : Option Nat :=
  if digits.isEmpty then none else digitsValue? base digits

/-- The value of an escape of `count` characters. A plus sign may take the
place of the first digit. -/
def escapeNumber? (count : Nat) (rest : List Char) : Option Nat :=
  let taken := rest.take count
  if taken.length < count then none
  else match taken with
    | '+' :: digits => escapeDigits? 16 digits
    | digits => escapeDigits? 16 digits

/-- The character with a code point. -/
def charOf? (value : Nat) : Option Char :=
  if value < 0xD800 || (0xE000 ≤ value && value < 0x110000) then some (Char.ofNat value) else none

/-- The values that an escape stands for and the characters it takes after the
backslash. -/
def QuoteShape.escape? (shape : QuoteShape) : List Char → Option (List Nat × Nat)
  | [] => none
  | c :: rest =>
    let scalar? (count : Nat) : Option (List Nat × Nat) := do
      let value ← escapeNumber? count rest
      pure (shape.valuesOf (← charOf? value), count + 1)
    match c with
    | 'a' => some ([7], 1)
    | 'b' => some ([8], 1)
    | 'f' => some ([12], 1)
    | 'n' => some ([10], 1)
    | 'r' => some ([13], 1)
    | 't' => some ([9], 1)
    | 'v' => some ([11], 1)
    | '\\' => some ([0x5C], 1)
    | '\'' => some ([0x27], 1)
    | '"' => some ([0x22], 1)
    | '`' => some ([0x60], 1)
    | '?' => some ([0x3F], 1)
    | '/' => some ([0x2F], 1)
    | 'x' => (escapeNumber? 2 rest).map fun value => ([value], 3)
    | 'X' => (escapeNumber? 2 rest).map fun value => ([value], 3)
    | 'u' => scalar? 4
    | 'U' => scalar? 8
    | _ => do
      let digits := (c :: rest).take 3
      let value ← if digits.length = 3 then escapeDigits? 8 digits else none
      if value < 256 then pure ([value], 3) else none

/-- Whether the closing quotes stand here. -/
def QuoteShape.closes (shape : QuoteShape) (text : List Char) : Bool :=
  (List.replicate (if shape.triple then 3 else 1) shape.quote).isPrefixOf text

/-- The values of a literal up to its closing quotes, and the number of
characters up to and with them. The first `skip` characters are passed over;
`none` when the literal does not end or holds a bad escape. -/
def quotedBody? (shape : QuoteShape) (skip : Nat) : List Char → Option (List Nat × Nat)
  | [] => none
  | c :: rest =>
    let next (values : List Nat) (skip : Nat) : Option (List Nat × Nat) :=
      (quotedBody? shape skip rest).map fun (later, count) => (values ++ later, count + 1)
    if skip > 0 then next [] (skip - 1)
    else if shape.closes (c :: rest) then some ([], if shape.triple then 3 else 1)
    else if c = '\\' && !shape.raw then do
      let (values, used) ← shape.escape? rest
      next values used
    else if c = '\n' && !shape.triple && !shape.raw then none
    else next (shape.valuesOf c) 0

/-- The token of a literal with the given values. -/
def QuoteShape.token (shape : QuoteShape) (values : List Nat) : Token :=
  if shape.bytes then .bytes (values.map UInt8.ofNat)
  else .string (String.ofList (values.map Char.ofNat))

/-- A literal that opens with `length` characters. A literal that does not end
well fails at its opening. -/
def quotedScan (raw bytes : Bool) (letters : Nat) (text : List Char) : Scan :=
  match text with
  | quote :: rest =>
    let triple := [quote, quote].isPrefixOf rest
    let opening := if triple then 3 else 1
    let shape : QuoteShape := ⟨quote, triple, raw, bytes⟩
    match quotedBody? shape 0 (text.drop opening) with
    | some (values, count) => .token (shape.token values) (letters + opening + count - 1)
    | none => .failure (letters + opening - 1)
  | [] => .failure 0

def isQuote (c : Char) : Bool := c = '\'' || c = '"'

/-- The letters before a quote: whether they make a literal raw, and whether
they make it a byte literal. -/
def literalPrefix? : List Char → Option (Bool × Bool)
  | [] => some (false, false)
  | [c] =>
    if c = 'r' ∨ c = 'R' then some (true, false)
    else if c = 'b' ∨ c = 'B' then some (false, true)
    else none
  | [c, d] =>
    match literalPrefix? [c], literalPrefix? [d] with
    | some (true, _), some (_, true) => some (true, true)
    | some (_, true), some (true, _) => some (true, true)
    | _, _ => none
  | _ => none

/-- A word, or a literal that starts with letters. -/
def wordScan (c : Char) (rest : List Char) : Scan :=
  let tail := rest.takeWhile isWordChar
  let after := rest.dropWhile isWordChar
  match literalPrefix? (c :: tail), after.head? with
  | some (raw, bytes), some quote =>
    if isQuote quote then quotedScan raw bytes (tail.length + 1) after else word tail
  | _, _ => word tail
where
  word (tail : List Char) : Scan :=
    .token (Token.ofWord (String.ofList (c :: tail))) tail.length

/-- No quote follows, so the letters are no mark of a literal. -/
theorem wordScan_of_not_quote {c : Char} {rest : List Char}
    (h : (rest.dropWhile isWordChar).head?.any isQuote = false) :
    wordScan c rest = wordScan.word c (rest.takeWhile isWordChar) := by
  rw [wordScan]
  cases hafter : (rest.dropWhile isWordChar).head? with
  | none =>
      cases literalPrefix? (c :: rest.takeWhile isWordChar) with
      | _ => rfl
  | some quote =>
      rw [hafter, Option.any_some] at h
      cases literalPrefix? (c :: rest.takeWhile isWordChar) with
      | none => rfl
      | some marks => simp [h]

/-- Characters of a name between backquotes. -/
def isNameChar (c : Char) : Bool := c != '`' && c != '\n'

/-- A name between backquotes. One that does not end fails as a whole. -/
def backquotedScan (rest : List Char) : Scan :=
  let name := rest.takeWhile isNameChar
  if !name.isEmpty && (rest.dropWhile isNameChar).head? == some '`' then
    .token (.ident (String.ofList name)) (name.length + 1)
  else
    .failure name.length

/-- Operators of two characters. -/
def pairMark? (c d : Char) : Option Mark :=
  match c, d with
  | '=', '=' => some .equal
  | '!', '=' => some .notEqual
  | '<', '=' => some .lessEqual
  | '>', '=' => some .greaterEqual
  | '&', '&' => some .and
  | '|', '|' => some .or
  | _, _ => none

/-- Operators and punctuation of one character. -/
def singleMark? : Char → Option Mark
  | '(' => some .leftParen
  | ')' => some .rightParen
  | '[' => some .leftBracket
  | ']' => some .rightBracket
  | '\x7b' => some .leftBrace
  | '\x7d' => some .rightBrace
  | '.' => some .dot
  | ',' => some .comma
  | ':' => some .colon
  | '?' => some .question
  | '+' => some .plus
  | '-' => some .minus
  | '*' => some .star
  | '/' => some .slash
  | '%' => some .percent
  | '!' => some .bang
  | '<' => some .less
  | '>' => some .greater
  | _ => none

def markScan (c : Char) (rest : List Char) : Scan :=
  match rest.head? >>= pairMark? c, singleMark? c with
  | some mark, _ => .token (.mark mark) 1
  | none, some mark => .token (.mark mark) 0
  | none, none => .failure 0

/-- What stands at a place that holds `c :: rest`. -/
def scan (c : Char) (rest : List Char) : Scan :=
  if isBlankChar c then .blank 0
  else if c = '/' && rest.head? == some '/' then .blank (rest.takeWhile (· != '\n')).length
  else if isDecimal c then numberScan c rest
  else if c = '.' && rest.head?.any isDecimal then decimalScan [] (c :: rest)
  else if isWordStart c then wordScan c rest
  else if isQuote c then quotedScan false false 0 (c :: rest)
  else if c = '`' then backquotedScan rest
  else markScan c rest

/-- The bytes of a lexeme of `more + 1` characters. -/
def spanOf (offset : Nat) (c : Char) (rest : List Char) (more : Nat) : ByteSpan :=
  ⟨offset, offset + Text.byteLength (c :: rest.take more)⟩

/-- The lexemes of a text that starts at `offset`. The first `skip` characters
belong to a lexeme that was taken already. -/
def lexemesFrom (offset skip : Nat) : List Char → Except LexError (List Lexeme)
  | [] => .ok []
  | c :: rest =>
    let next (skip : Nat) := lexemesFrom (offset + c.utf8Size) skip rest
    if skip > 0 then next (skip - 1)
    else match scan c rest with
      | .blank more => next more
      | .token token more => do
        let later ← next more
        pure (⟨token, spanOf offset c rest more⟩ :: later)
      | .failure more => .error ⟨offset, String.ofList (c :: rest.take more)⟩

/-- The lexemes of a text. -/
def lexemes (text : List Char) : Except LexError (List Lexeme) :=
  lexemesFrom 0 0 text

end CelWatch.Cel
