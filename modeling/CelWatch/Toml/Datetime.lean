import CelWatch.Toml.Token

/-!
Dates and times of TOML: a date, a time, or both with an optional offset from
universal time. Reading gives the standard form: the two parts joined by `T`,
the fraction of a second without trailing zeros and with nine digits at most.
-/

namespace CelWatch.Toml.Datetime

open CelWatch.Text (isDecimal)

/-- A part of a word in standard form, and the characters after it. -/
abbrev Part := List Char × List Char

/-- The number of two digits. -/
def two? (tens ones : Char) : Option Nat :=
  if isDecimal tens && isDecimal ones then
    some ((tens.toNat - 48) * 10 + (ones.toNat - 48))
  else none

def isLeapYear (year : Nat) : Bool :=
  year % 4 = 0 && (year % 100 ≠ 0 || year % 400 = 0)

def daysInMonth (year month : Nat) : Nat :=
  if month = 2 then (if isLeapYear year then 29 else 28)
  else if month = 4 ∨ month = 6 ∨ month = 9 ∨ month = 11 then 30
  else 31

/-- Reads a date. -/
def date? : List Char → Option Part
  | a :: b :: c :: d :: '-' :: e :: f :: '-' :: g :: h :: rest => do
    let century ← two? a b
    let year ← two? c d
    let month ← two? e f
    let day ← two? g h
    if 1 ≤ month ∧ month ≤ 12 ∧ 1 ≤ day ∧ day ≤ daysInMonth (century * 100 + year) month then
      some ([a, b, c, d, '-', e, f, '-', g, h], rest)
    else none
  | _ => none

/-- The digits of a fraction in standard form, with the point. -/
def fraction (digits : List Char) : List Char :=
  let kept := ((digits.take 9).reverse.dropWhile (· = '0')).reverse
  if kept.isEmpty then [] else '.' :: kept

/-- Reads a time of day. A second may be a leap second. -/
def time? : List Char → Option Part
  | a :: b :: ':' :: c :: d :: ':' :: e :: f :: rest => do
    let hour ← two? a b
    let minute ← two? c d
    let second ← two? e f
    if hour < 24 ∧ minute < 60 ∧ second ≤ 60 then
      let whole := [a, b, ':', c, d, ':', e, f]
      match rest with
      | '.' :: after =>
        let digits := after.takeWhile isDecimal
        if digits.isEmpty then none
        else some (whole ++ fraction digits, after.dropWhile isDecimal)
      | _ => some (whole, rest)
    else none
  | _ => none

/-- Reads an offset, which must end the word. -/
def offset? : List Char → Option (List Char)
  | [] => some []
  | ['Z'] => some ['Z']
  | ['z'] => some ['Z']
  | [sign, a, b, ':', c, d] => do
    let hour ← two? a b
    let minute ← two? c d
    if (sign = '+' ∨ sign = '-') ∧ hour < 24 ∧ minute < 60 then
      let sign := if hour = 0 ∧ minute = 0 then '+' else sign
      some [sign, a, b, ':', c, d]
    else none
  | _ => none

/-- What stands between a date and a time. -/
def isDelimiter (c : Char) : Bool := c = 'T' || c = 't' || c = ' '

/-- Reads a word that is a date, a time or both. -/
def ofWord? (word : List Char) : Option (List Char) :=
  match date? word with
  | some (date, []) => some date
  | some (date, delimiter :: rest) =>
    if isDelimiter delimiter then do
      let (time, rest) ← time? rest
      let offset ← offset? rest
      pure (date ++ 'T' :: time ++ offset)
    else none
  | none =>
    match time? word with
    | some (time, []) => some time
    | _ => none

end CelWatch.Toml.Datetime
