/-!
Byte offsets into a text. A text is a list of characters; offsets count the
bytes of its UTF-8 form. A cut is defined only where it falls between two
characters, so `none` stands for an offset past the end or inside a character.
-/

namespace CelWatch

/-- A half-open range of byte offsets. The ends need not be in order. -/
structure ByteSpan where
  start : Nat
  stop : Nat
deriving DecidableEq, Repr, Inhabited

/-- Moves both ends of a span to the right. -/
def ByteSpan.shift (span : ByteSpan) (offset : Nat) : ByteSpan :=
  ⟨offset + span.start, offset + span.stop⟩

namespace Text

/-- Number of UTF-8 bytes. -/
def byteLength : List Char → Nat
  | [] => 0
  | c :: rest => c.utf8Size + byteLength rest

/-- The characters from a byte offset on. -/
def dropBytes? : List Char → Nat → Option (List Char)
  | text, 0 => some text
  | [], _ + 1 => none
  | c :: rest, n + 1 =>
    if c.utf8Size ≤ n + 1 then dropBytes? rest (n + 1 - c.utf8Size) else none

/-- The characters before a byte offset. -/
def takeBytes? : List Char → Nat → Option (List Char)
  | _, 0 => some []
  | [], _ + 1 => none
  | c :: rest, n + 1 =>
    if c.utf8Size ≤ n + 1 then (takeBytes? rest (n + 1 - c.utf8Size)).map (c :: ·) else none

/-- The characters of a span, when both of its ends fall between characters
of the text and are in order. -/
def slice? (text : List Char) (span : ByteSpan) : Option (List Char) :=
  if span.start ≤ span.stop then do
    takeBytes? (← dropBytes? text span.start) (span.stop - span.start)
  else
    none

/-- The text of a span that its caller has placed between characters. -/
def slice (text : List Char) (span : ByteSpan) : String :=
  String.ofList ((slice? text span).getD [])

@[simp] theorem byteLength_append (a b : List Char) :
    byteLength (a ++ b) = byteLength a + byteLength b := by
  induction a with
  | nil => simp [byteLength]
  | cons c rest ih => simp only [List.cons_append, byteLength, ih]; omega

theorem eq_nil_of_byteLength {text : List Char} (h : byteLength text = 0) : text = [] := by
  cases text with
  | nil => rfl
  | cons c rest =>
      have width := c.utf8Size_pos
      rw [byteLength] at h
      omega

theorem dropBytes?_append (a b : List Char) :
    dropBytes? (a ++ b) (byteLength a) = some b := by
  induction a with
  | nil => simp [byteLength, dropBytes?]
  | cons c rest ih =>
      have width := c.utf8Size_pos
      obtain ⟨n, hn⟩ : ∃ n, byteLength (c :: rest) = n + 1 :=
        ⟨byteLength (c :: rest) - 1, by simp only [byteLength]; omega⟩
      have fits : c.utf8Size ≤ n + 1 := by simp only [byteLength] at hn; omega
      have left : n + 1 - c.utf8Size = byteLength rest := by simp only [byteLength] at hn; omega
      rw [hn, List.cons_append, dropBytes?, if_pos fits, left, ih]

theorem takeBytes?_append (a b : List Char) :
    takeBytes? (a ++ b) (byteLength a) = some a := by
  induction a with
  | nil => simp [byteLength, takeBytes?]
  | cons c rest ih =>
      have width := c.utf8Size_pos
      obtain ⟨n, hn⟩ : ∃ n, byteLength (c :: rest) = n + 1 :=
        ⟨byteLength (c :: rest) - 1, by simp only [byteLength]; omega⟩
      have fits : c.utf8Size ≤ n + 1 := by simp only [byteLength] at hn; omega
      have left : n + 1 - c.utf8Size = byteLength rest := by simp only [byteLength] at hn; omega
      rw [hn, List.cons_append, takeBytes?, if_pos fits, left, ih]
      rfl

/-- Cutting between the parts of a text gives back the middle part. -/
theorem slice?_append (a b c : List Char) :
    slice? (a ++ b ++ c) ⟨byteLength a, byteLength a + byteLength b⟩ = some b := by
  simp [slice?, dropBytes?_append, takeBytes?_append]

end Text

end CelWatch
