import CelWatch.Text.Digit

/-!
Lexemes of JSON. The scanner is an automaton over the characters of the text;
what it has read of an unfinished lexeme is its state.
-/

namespace CelWatch.Json

open Text (digit? digitsValue isDecimal)

inductive Token where
  | openArray
  | closeArray
  | openObject
  | closeObject
  | colon
  | comma
  | string (value : String)
  | number (mantissa : Int) (exponent : Int)
  | true
  | false
  | null
deriving DecidableEq, Repr

/-- What a scanner has read of the lexeme it is in. Characters and code units
are kept in reverse. -/
inductive Scanner where
  | between
  | string (units : List Nat)
  | escape (units : List Nat)
  | unicode (units : List Nat) (value : Nat) (missing : Nat)
  | atom (read : List Char)
deriving Repr

/-- Joins surrogate pairs; a surrogate that stands alone becomes U+FFFD. -/
def joinUnits : List Nat → List Char
  | [] => []
  | high :: low :: rest =>
    if 0xD800 ≤ high ∧ high < 0xDC00 ∧ 0xDC00 ≤ low ∧ low < 0xE000 then
      Char.ofNat (0x10000 + (high - 0xD800) * 0x400 + (low - 0xDC00)) :: joinUnits rest
    else if 0xD800 ≤ high ∧ high < 0xE000 then
      Char.ofNat 0xFFFD :: joinUnits (low :: rest)
    else
      Char.ofNat high :: joinUnits (low :: rest)
  | [unit] => [if 0xD800 ≤ unit ∧ unit < 0xE000 then Char.ofNat 0xFFFD else Char.ofNat unit]

/-- Reads a number: an optional sign, digits without a leading zero, an
optional fraction and an optional exponent. -/
def number? (text : List Char) : Option Token :=
  let (negative, text) := match text with
    | '-' :: rest => (Bool.true, rest)
    | _ => (Bool.false, text)
  let whole := text.takeWhile isDecimal
  let rest := text.dropWhile isDecimal
  let leadingZero := whole.length > 1 && whole.head? == some '0'
  if whole.isEmpty || leadingZero then none else
  let fraction? : Option (List Char × List Char) := match rest with
    | '.' :: rest =>
      let digits := rest.takeWhile isDecimal
      if digits.isEmpty then none else some (digits, rest.dropWhile isDecimal)
    | _ => some ([], rest)
  match fraction? with
  | none => none
  | some (fraction, rest) =>
    let exponent? : Option Int := match rest with
      | [] => some 0
      | e :: rest =>
        if e = 'e' ∨ e = 'E' then
          let (sign, digits) : Int × List Char := match rest with
            | '-' :: rest => (-1, rest)
            | '+' :: rest => (1, rest)
            | _ => (1, rest)
          if digits.isEmpty || !digits.all isDecimal then none
          else some (sign * digitsValue 10 digits)
        else none
    exponent?.map fun exponent =>
      let magnitude : Int := digitsValue 10 (whole ++ fraction)
      .number (if negative then -magnitude else magnitude) (exponent - fraction.length)

def word? (read : List Char) : Option Token :=
  if read = "true".toList then some .true
  else if read = "false".toList then some .false
  else if read = "null".toList then some .null
  else number? read

def punctuation? : Char → Option Token
  | '[' => some .openArray
  | ']' => some .closeArray
  | '\x7b' => some .openObject
  | '\x7d' => some .closeObject
  | ':' => some .colon
  | ',' => some .comma
  | _ => none

def isSpace (c : Char) : Bool :=
  c = ' ' || c = '\t' || c = '\n' || c = '\r'

def escaped? : Char → Option Nat
  | '"' => some 0x22
  | '\\' => some 0x5C
  | '/' => some 0x2F
  | 'b' => some 8
  | 'f' => some 12
  | 'n' => some 10
  | 'r' => some 13
  | 't' => some 9
  | _ => none

/-- Takes one character between lexemes. -/
def Scanner.start? (c : Char) : Option (Scanner × List Token) :=
  if isSpace c then some (.between, [])
  else if c = '"' then some (.string [], [])
  else match punctuation? c with
    | some token => some (.between, [token])
    | none => some (.atom [c], [])

/-- Takes one character; gives the lexemes that it completes. -/
def Scanner.step? (scanner : Scanner) (c : Char) : Option (Scanner × List Token) :=
  match scanner with
  | .between => Scanner.start? c
  | .string units =>
    if c = '"' then some (.between, [.string (String.ofList (joinUnits units.reverse))])
    else if c = '\\' then some (.escape units, [])
    else if c.toNat < 0x20 then none
    else some (.string (c.toNat :: units), [])
  | .escape units =>
    if c = 'u' then some (.unicode units 0 4, [])
    else (escaped? c).map fun unit => (.string (unit :: units), [])
  | .unicode units value missing =>
    (digit? c).map fun digit =>
      let value := value * 16 + digit
      if missing ≤ 1 then (.string (value :: units), []) else (.unicode units value (missing - 1), [])
  | .atom read =>
    if isSpace c || c = '"' || (punctuation? c).isSome then do
      let token ← word? read.reverse
      let (next, tokens) ← Scanner.start? c
      pure (next, token :: tokens)
    else
      some (.atom (c :: read), [])

/-- The lexemes that the end of the text completes. -/
def Scanner.finish? : Scanner → Option (List Token)
  | .between => some []
  | .atom read => (word? read.reverse).map fun token => [token]
  | _ => none

/-- Takes one character more; the lexemes read so far are kept in reverse. -/
def advance? (state : Scanner × List Token) (c : Char) : Option (Scanner × List Token) := do
  let (next, tokens) ← state.1.step? c
  pure (next, tokens.reverse ++ state.2)

/-- The lexemes of a text, unless some part of it is no lexeme. -/
def tokens? (text : String) : Option (List Token) := do
  let (scanner, read) ← text.toList.foldlM advance? (.between, [])
  pure (read.reverse ++ (← scanner.finish?))

end CelWatch.Json
