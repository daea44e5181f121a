import CelWatch.Text.Digit

/-!
Sets and tables of characters, written as lines of entries with a blank between
each two. An entry names code points in base sixteen: one, all of a range with
a hyphen, or every other one of a range with a tilde. In a table an equals sign
and a text follow, which belongs to the first of the code points; the text of a
later one lies as far above it as that code point lies above the first.
-/

namespace CelWatch.Text

/-- The text before the first mark, and the text after it. -/
def cut (isMark : Char → Bool) (text : List Char) : List Char × List Char :=
  (text.takeWhile (!isMark ·), (text.dropWhile (!isMark ·)).drop 1)

/-- The entries of lines. -/
def entries (lines : List String) : List (List Char) :=
  lines.flatMap fun line => (line.splitOn " ").map String.toList

/-- Code points at equal steps. -/
structure CodeRange where
  first : Nat
  last : Nat
  step : Nat
deriving DecidableEq, Repr

namespace CodeRange

def ofEntry (entry : List Char) : CodeRange :=
  let (first, last) := cut (fun c => c = '-' || c = '~') entry
  let last := if last.isEmpty then first else last
  ⟨digitsValue 16 first, digitsValue 16 last, if entry.contains '~' then 2 else 1⟩

def contains (range : CodeRange) (code : Nat) : Bool :=
  range.first ≤ code && code ≤ range.last && (code - range.first) % range.step == 0

end CodeRange

structure CodeSet where
  ranges : List CodeRange
deriving DecidableEq, Repr

namespace CodeSet

def ofLines (lines : List String) : CodeSet :=
  ⟨(entries lines).map CodeRange.ofEntry⟩

def contains (set : CodeSet) (c : Char) : Bool :=
  set.ranges.any (·.contains c.toNat)

end CodeSet

/-- Texts that belong to characters, as code points. -/
structure CodeTable where
  rows : List (CodeRange × List Nat)
deriving DecidableEq, Repr

namespace CodeTable

/-- The code points of a text; a dot stands between each two. -/
def codes (text : List Char) : List Nat :=
  if text.isEmpty then []
  else ((String.ofList text).splitOn ".").map fun code => digitsValue 16 code.toList

def rowOf (entry : List Char) : CodeRange × List Nat :=
  let (range, text) := cut (· = '=') entry
  (.ofEntry range, codes text)

def ofLines (lines : List String) : CodeTable :=
  ⟨(entries lines).map rowOf⟩

/-- The text that belongs to a character. -/
def get? (table : CodeTable) (c : Char) : Option (List Char) :=
  (table.rows.find? (·.1.contains c.toNat)).map fun (range, text) =>
    text.map fun code => Char.ofNat (code + (c.toNat - range.first))

/-- The first character of a row that gives it the text. -/
def source? (table : CodeTable) (text : List Char) : Option Char :=
  let wanted := text.map Char.toNat
  (table.rows.find? (·.2 == wanted)).map fun (range, _) => Char.ofNat range.first

end CodeTable

end CelWatch.Text
