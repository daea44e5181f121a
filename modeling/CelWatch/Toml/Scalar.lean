import CelWatch.Decimal.Shortest
import CelWatch.Text.Digit
import CelWatch.Toml.Datetime
import CelWatch.Toml.Value

/-!
Words as values: truth values, integers of 64 bits, floats, dates and times. An
underscore may stand between two digits and does not count.
-/

namespace CelWatch.Toml.Scalar

open CelWatch.Text (digitsValue isDecimal isDigitIn)

/-- The digits of a number without their underscores. -/
def digits? (inBase : Char → Bool) : List Char → Option (List Char)
  | [] => none
  | [c] => if inBase c then some [c] else none
  | c :: '_' :: rest =>
    if inBase c then (digits? inBase rest).map (c :: ·) else none
  | c :: rest =>
    if inBase c then (digits? inBase rest).map (c :: ·) else none

/-- Splits off a sign. -/
def splitSign : List Char → Option Char × List Char
  | '+' :: rest => (some '+', rest)
  | '-' :: rest => (some '-', rest)
  | word => (none, word)

/-- Digits in base ten; only zero itself starts with a zero. -/
def wholeDigits? (word : List Char) : Option (List Char) :=
  if word.head? = some '0' ∧ word.length ≠ 1 then none else digits? isDecimal word

/-- The magnitude of an integer in the base that its first characters mark. -/
def based? (base : Nat) (word : List Char) : Option Nat :=
  (digits? (isDigitIn base) word).map (digitsValue base)

/-- Reads an integer. A base other than ten takes no sign. -/
def integer? (word : List Char) : Option Int := do
  let value : Int ← match word with
    | '0' :: 'x' :: digits => (based? 16 digits).map Int.ofNat
    | '0' :: 'o' :: digits => (based? 8 digits).map Int.ofNat
    | '0' :: 'b' :: digits => (based? 2 digits).map Int.ofNat
    | _ =>
      let (sign, whole) := splitSign word
      (wholeDigits? whole).map fun digits =>
        let magnitude : Int := digitsValue 10 digits
        if sign = some '-' then -magnitude else magnitude
  let bound : Int := Nat.pow 2 63
  if -bound ≤ value ∧ value < bound then some value else none

def isExponentMark (c : Char) : Bool := c = 'e' || c = 'E'

/-- The digits behind the point of a word that goes on after its whole part;
`none` when there is a point without digits. -/
def fraction? : List Char → Option (List Char)
  | '.' :: rest => digits? isDecimal (rest.takeWhile fun c => !isExponentMark c)
  | _ => some []

/-- The power of ten that a word ends in; `none` when its mark has no digits. -/
def exponent? (word : List Char) : Option Int :=
  match word.dropWhile fun c => !isExponentMark c with
  | [] => some 0
  | _ :: rest =>
    let (sign, digits) := splitSign rest
    (digits? isDecimal digits).map fun digits =>
      let magnitude : Int := digitsValue 10 digits
      if sign = some '-' then -magnitude else magnitude

/-- Whether a word is a float: a whole part with a fraction, an exponent or
both, or one of the names for what is no number. A positive float that is too
large for a double is refused. -/
def isFloat (word : List Char) : Bool :=
  let (sign, unsigned) := splitSign word
  if unsigned = "inf".toList ∨ unsigned = "nan".toList then true
  else
    let isWhole (c : Char) : Bool := isDecimal c || c = '_'
    let rest := unsigned.dropWhile isWhole
    match rest, wholeDigits? (unsigned.takeWhile isWhole), fraction? rest, exponent? rest with
    | c :: _, some whole, some fraction, some exponent =>
      (c = '.' || isExponentMark c) &&
        (sign = some '-' ||
          Decimal.toDouble (digitsValue 10 (whole ++ fraction))
            (exponent - fraction.length) ≠ .infinite)
    | _, _, _, _ => false

/-- Reads a word as a value. -/
def ofWord? (word : List Char) : Option Value :=
  if word = "true".toList then some (.boolean true)
  else if word = "false".toList then some (.boolean false)
  else match Datetime.ofWord? word, integer? word with
    | some standard, _ => some (.datetime (String.ofList standard))
    | none, some value => some (.integer value)
    | none, none => if isFloat word then some (.float (String.ofList word)) else none

end CelWatch.Toml.Scalar
