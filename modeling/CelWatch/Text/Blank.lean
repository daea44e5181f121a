/-!
Blank characters and trimming. A character is blank when it has the Unicode
`White_Space` property; `trim` removes blanks at both ends and nothing else.
-/

namespace CelWatch.Text

/-- The characters with the Unicode `White_Space` property. -/
def isBlank (c : Char) : Bool :=
  let n := c.toNat
  (9 ≤ n && n ≤ 13) || n == 0x20 || n == 0x85 || n == 0xA0 || n == 0x1680 ||
    (0x2000 ≤ n && n ≤ 0x200A) || n == 0x2028 || n == 0x2029 || n == 0x202F ||
    n == 0x205F || n == 0x3000

/-- Removes the blanks in front. -/
def trimStart (text : List Char) : List Char :=
  text.dropWhile isBlank

/-- Removes the blanks at the end. -/
def trimEnd (text : List Char) : List Char :=
  (text.reverse.dropWhile isBlank).reverse

/-- Removes the blanks at both ends. -/
def trim (text : List Char) : List Char :=
  trimEnd (trimStart text)

theorem length_dropWhile_le {α : Type} (p : α → Bool) (xs : List α) :
    (xs.dropWhile p).length ≤ xs.length :=
  (List.dropWhile_sublist p).length_le

theorem length_trim_le (text : List Char) : (trim text).length ≤ text.length := by
  have first := length_dropWhile_le isBlank text
  have second := length_dropWhile_le isBlank (trimStart text).reverse
  simp only [trim, trimEnd, trimStart, List.length_reverse] at *
  omega

end CelWatch.Text
