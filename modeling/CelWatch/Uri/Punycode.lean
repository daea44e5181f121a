/-!
The ASCII form of a label with other characters (bootstring with the
parameters of domain names). The characters outside ASCII are coded in
ascending order, each by its distance from the one before; the distances are
numbers of variable length in base thirty-six.
-/

namespace CelWatch.Uri.Punycode

def digit (d : Nat) : Char :=
  if d < 26 then Char.ofNat (0x61 + d) else Char.ofNat (0x30 + d - 26)

/-- The threshold of the digit at weight `k`. -/
def threshold (k bias : Nat) : Nat :=
  if k ≤ bias then 1 else if bias + 26 ≤ k then 26 else k - bias

theorem threshold_pos (k bias : Nat) : 1 ≤ threshold k bias := by
  unfold threshold
  split
  · omega
  · split <;> omega

/-- Divides the distance until it is small; gives it with the weight reached. -/
def settle (delta k : Nat) : Nat × Nat :=
  if 455 < delta then settle (delta / 35) (k + 36) else (delta, k)
termination_by delta
decreasing_by exact Nat.div_lt_self (by omega) (by omega)

/-- The bias for the next distance. -/
def adapt (delta points : Nat) (first : Bool) : Nat :=
  let scaled := if first then delta / 700 else delta / 2
  let (delta, k) := settle (scaled + scaled / points) 0
  k + 36 * delta / (delta + 38)

/-- A distance as digits, least weight first. -/
def writeNumber (bias k q : Nat) : List Char :=
  let t := threshold k bias
  if q < t then [digit q]
  else digit (t + (q - t) % (36 - t)) :: writeNumber bias (k + 36) ((q - t) / (36 - t))
termination_by q
decreasing_by
  have low := threshold_pos k bias
  calc (q - threshold k bias) / (36 - threshold k bias)
      ≤ q - threshold k bias := Nat.div_le_self _ _
    _ < q := by omega

structure Progress where
  written : List Char
  delta : Nat
  bias : Nat
  handled : Nat

/-- Passes one character of the label while the characters `point` are coded. -/
def visit (basic point : Nat) (state : Progress) (c : Char) : Progress :=
  if c.toNat < point then
    { state with delta := state.delta + 1 }
  else if c.toNat = point then
    { written := state.written ++ writeNumber state.bias 36 state.delta
      delta := 0
      bias := adapt state.delta (state.handled + 1) (state.handled == basic)
      handled := state.handled + 1 }
  else
    state

/-- Codes the characters `points`, in ascending order; all below `next` are coded. -/
def writePoints (label : List Char) (basic : Nat) : List Nat → Nat → Progress → Progress
  | [], _, state => state
  | point :: rest, next, state =>
    let state := { state with delta := state.delta + (point - next) * (state.handled + 1) }
    let state := label.foldl (visit basic point) state
    writePoints label basic rest (point + 1) { state with delta := state.delta + 1 }

/-- The coded form of a label, without the mark in front. -/
def encode (label : List Char) : List Char :=
  let basic := label.filter fun c => c.toNat < 0x80
  let points := ((label.filter fun c => 0x80 ≤ c.toNat).map Char.toNat).mergeSort.eraseDups
  let start : Progress := ⟨[], 0, 72, basic.length⟩
  basic ++ (if basic.isEmpty then [] else ['-']) ++
    (writePoints label basic.length points 128 start).written

def digitValue? (c : Char) : Option Nat :=
  if 'a' ≤ c ∧ c ≤ 'z' then some (c.toNat - 0x61)
  else if '0' ≤ c ∧ c ≤ '9' then some (c.toNat - 0x30 + 26)
  else none

/-- A label that is being read. -/
structure Reading where
  text : List Char
  /-- The character that was put in last, or the one before all that can be. -/
  point : Nat
  /-- Where the next character goes, as far as its distance has been read. -/
  place : Nat
  /-- The place at which the distance began. -/
  origin : Nat
  /-- What the next digit of the distance counts for. -/
  weight : Nat
  /-- The position of the next digit. -/
  k : Nat
  bias : Nat

/-- Puts in the character whose distance is complete. -/
def Reading.insert? (state : Reading) : Option Reading :=
  let count := state.text.length + 1
  let point := state.point + state.place / count
  let place := state.place % count
  if point < 0xD800 || (0xDFFF < point && point < 0x110000) then
    some {
      text := state.text.take place ++ Char.ofNat point :: state.text.drop place
      point := point
      place := place + 1
      origin := place + 1
      weight := 1
      k := 36
      bias := adapt (state.place - state.origin) count (state.origin == 0) }
  else none

/-- The text when all digits are read; the last distance must be complete. -/
def readDigits? (state : Reading) : List Char → Option (List Char)
  | [] => if state.k = 36 then some state.text else none
  | c :: rest => do
    let value ← digitValue? c
    let t := threshold state.k state.bias
    let state := { state with place := state.place + value * state.weight }
    if value < t then readDigits? (← state.insert?) rest
    else readDigits? { state with weight := state.weight * (36 - t), k := state.k + 36 } rest

/-- The label that a code stands for. A code that ends in a hyphen would stand
for a label that needs none, and is no code. -/
def decode? (code : List Char) : Option (List Char) :=
  let digits := (code.reverse.takeWhile (· != '-')).reverse
  let basic := code.take (code.length - digits.length - 1)
  if digits.isEmpty || basic.any fun c => 0x80 ≤ c.toNat then none
  else readDigits? ⟨basic, 128, 0, 0, 1, 36, 72⟩ digits

end CelWatch.Uri.Punycode
