import CelWatch.Text.Slice

/-!
Line and column positions. Lines end at `'\n'`; columns count UTF-16 units, as
those of the editor protocol do. Both count from one.

`LineIndex` finds the line of an offset by bisecting the offsets at which
lines start, then counts the units from there.
-/

namespace CelWatch

/-- A place in a text: line and column, both counted from one. -/
structure Position where
  line : Nat
  column : Nat
deriving DecidableEq, Repr, Inhabited

/-- Where a failure without a location is reported. -/
def Position.first : Position := ⟨1, 1⟩

namespace Text

/-- Number of UTF-16 units of a character. -/
def units16 (c : Char) : Nat :=
  if c.toNat < 0x10000 then 1 else 2

/-- UTF-16 units of the characters that start before byte `limit`. -/
def unitsBefore : List Char → Nat → Nat
  | [], _ => 0
  | c :: rest, limit =>
    if limit = 0 then 0 else units16 c + unitsBefore rest (limit - c.utf8Size)

/-- The offsets that follow a line feed, for a text that starts at `offset`. -/
def startsAfterFeeds (offset : Nat) : List Char → List Nat
  | [] => []
  | c :: rest =>
    let next := offset + c.utf8Size
    if c = '\n' then next :: startsAfterFeeds next rest else startsAfterFeeds next rest

end Text

/-- A text with the offsets at which its lines start, in ascending order. -/
structure LineIndex where
  text : List Char
  length : Nat
  starts : Array Nat

namespace LineIndex

def ofChars (text : List Char) : LineIndex where
  text := text
  length := Text.byteLength text
  starts := (0 :: Text.startsAfterFeeds 0 text).toArray

def ofString (text : String) : LineIndex :=
  ofChars text.toList

/-- Bisects `low ≤ i < high` for the last start that is at most `offset`. The
start at `low` is one already. -/
def bisect (starts : Array Nat) (offset low high : Nat) : Nat :=
  if low + 1 < high then
    let middle := (low + high) / 2
    if starts.getD middle 0 ≤ offset then
      bisect starts offset middle high
    else
      bisect starts offset low middle
  else
    low
termination_by high - low

/-- Number of the line, from zero, that holds an offset. -/
def lineOf (index : LineIndex) (offset : Nat) : Nat :=
  bisect index.starts offset 0 index.starts.size

/-- The position of a byte offset. An offset past the end stands for the end;
an offset inside a character counts that character. The numbers have no bound
here; 32 bits hold them in a text of fewer than 2 ^ 32 - 1 bytes. -/
def position (index : LineIndex) (offset : Nat) : Position :=
  let offset := min offset index.length
  let line := index.lineOf offset
  let start := index.starts.getD line 0
  let tail := (Text.dropBytes? index.text start).getD []
  ⟨line + 1, Text.unitsBefore tail (offset - start) + 1⟩

/-- The positions of both ends of a span. -/
def span (index : LineIndex) (span : ByteSpan) : Position × Position :=
  (index.position span.start, index.position span.stop)

end LineIndex

end CelWatch
