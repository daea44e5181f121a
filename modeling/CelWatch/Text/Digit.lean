/-!
Digits and the numbers that they spell in bases up to sixteen.
-/

namespace CelWatch.Text

def isDecimal (c : Char) : Bool := '0' ≤ c && c ≤ '9'

/-- The value of a digit, in small or capital letters from ten on. -/
def digit? (c : Char) : Option Nat :=
  if '0' ≤ c ∧ c ≤ '9' then some (c.toNat - 48)
  else if 'a' ≤ c ∧ c ≤ 'f' then some (c.toNat - 87)
  else if 'A' ≤ c ∧ c ≤ 'F' then some (c.toNat - 55)
  else none

def isDigitIn (base : Nat) (c : Char) : Bool := (digit? c).any (· < base)

/-- The number that digits spell. What is no digit counts as zero. -/
def digitsValue (base : Nat) (digits : List Char) : Nat :=
  digits.foldl (fun value c => value * base + (digit? c).getD 0) 0

/-- The number that digits spell, when all are digits of the base. -/
def digitsValue? (base : Nat) (digits : List Char) : Option Nat :=
  if digits.all (isDigitIn base) then some (digitsValue base digits) else none

end CelWatch.Text
