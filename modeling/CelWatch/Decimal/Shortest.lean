/-!
The shortest decimal that reads back as the same double. A decimal is first
rounded to the nearest double, a half to the even neighbour; of the decimals
between the halfway points to that double's neighbours, those with the fewest
digits are taken, and of these the nearest.
-/

namespace CelWatch.Decimal

/-- The quotient rounded to the nearest whole number, a half to the even one. -/
def roundDiv (num den : Nat) : Nat :=
  let q := num / den
  let r := num % den
  if 2 * r < den then q else if 2 * r > den then q + 1 else q + q % 2

/-- A double without a sign: `mantissa · 2 ^ exponent`, or infinity. -/
inductive Double where
  | finite (mantissa : Nat) (exponent : Int)
  | infinite
deriving DecidableEq, Repr

/-- The decimal `mantissa · 10 ^ exponent` as a fraction. -/
def fraction (mantissa : Nat) (exponent : Int) : Nat × Nat :=
  (mantissa * Nat.pow 10 exponent.toNat, Nat.pow 10 (-exponent).toNat)

/-- `num / den · 2 ^ (-exponent)` rounded. -/
def scaled (num den : Nat) (exponent : Int) : Nat :=
  roundDiv (num * Nat.pow 2 (-exponent).toNat) (den * Nat.pow 2 exponent.toNat)

/-- The nearest double. Its mantissa has at most 53 bits and its exponent is at
least -1074. -/
def toDouble (mantissa : Nat) (exponent : Int) : Double :=
  if mantissa = 0 then .finite 0 (-1074)
  else if exponent > 400 then .infinite
  else if exponent + (Nat.toDigits 10 mantissa).length < -400 then .finite 0 (-1074)
  else
    let (num, den) := fraction mantissa exponent
    let guess : Int := (Nat.log2 num : Int) - Nat.log2 den - 53
    let power := max guess (-1074)
    let first := scaled num den power
    let limit := Nat.pow 2 53
    let (m, power) := if first ≥ limit then (scaled num den (power + 1), power + 1) else (first, power)
    let (m, power) := if m ≥ limit then (m / 2, power + 1) else (m, power)
    if power > 971 then .infinite else .finite m power

/-- Whether `digits · 10 ^ power` reads back as the double `m · 2 ^ e`. -/
def readsBack (m : Nat) (e : Int) (digits : Nat) (power : Int) : Bool :=
  toDouble digits power == .finite m e

/-- The power of ten of the leading digit of a fraction. -/
def leadingPower (num den : Nat) : Int :=
  if num ≥ den then ((Nat.toDigits 10 (num / den)).length : Int) - 1
  else -((Nat.toDigits 10 ((den - 1) / num)).length : Int)

/-- The shortest digits with at least `count` of them, and the power of ten of
the last one. -/
def shortestFrom (m : Nat) (e : Int) (num den : Nat) (top : Int) (count : Nat) : Nat → Nat × Int
  | 0 => (0, 0)
  | fuel + 1 =>
    let power := top - (count : Int) + 1
    let up := num * Nat.pow 10 (-power).toNat
    let down := den * Nat.pow 10 power.toNat
    let low := up / down
    let near := roundDiv up down
    let far := if near = low then low + 1 else low
    if readsBack m e near power then (near, power)
    else if readsBack m e far power then (far, power)
    else shortestFrom m e num den top (count + 1) fuel

/-- The digits of a double that is not zero, and the power of ten of the last. -/
def shortest (m : Nat) (e : Int) : Nat × Int :=
  let num := m * Nat.pow 2 e.toNat
  let den := Nat.pow 2 (-e).toNat
  shortestFrom m e num den (leadingPower num den) 1 17

/-- Digits without the zeros at their end. -/
def dropZeros (digits : List Char) : List Char :=
  (digits.reverse.dropWhile (· == '0')).reverse

/-- The text of `digits · 10 ^ power`. It is positional from a ten
thousandth up to below ten quadrillions, and always has a fraction there. -/
def write (digits : Nat) (power : Int) : String :=
  let all := Nat.toDigits 10 digits
  let top := power + (all.length : Int) - 1
  let kept := dropZeros all
  if top < -4 || top ≥ 16 then
    let tail := kept.drop 1
    String.ofList (kept.take 1 ++ (if tail.isEmpty then [] else '.' :: tail)) ++ "e" ++ toString top
  else if top < 0 then
    String.ofList ("0.".toList ++ List.replicate ((-top).toNat - 1) '0' ++ kept)
  else
    let wholeLength := top.toNat + 1
    let whole := kept.take wholeLength ++ List.replicate (wholeLength - kept.length) '0'
    let rest := kept.drop wholeLength
    String.ofList (whole ++ '.' :: (if rest.isEmpty then ['0'] else rest))

/-- The text of the double nearest to `mantissa · 10 ^ exponent`. -/
def describe (mantissa : Nat) (exponent : Int) : String :=
  match toDouble mantissa exponent with
  | .infinite => "inf"
  | .finite 0 _ => "0.0"
  | .finite m e =>
    let (digits, power) := shortest m e
    write digits power

end CelWatch.Decimal
