import Mathlib.Algebra.GroupWithZero.Nat
import Mathlib.Data.Nat.Find
import CelWatch.Proofs.Text.Position
import CelWatch.Text.Utf8

/-!
A position counts: its line the line feeds before the offset, its column the
UTF-16 units from the start of the line on. A walk takes the characters that
start before the offset, and these are lines that are over and a beginning of
the line that the offset is in.
-/

namespace CelWatch

open Text

namespace Text

/-- A line feed as a byte. -/
def feed : UInt8 := 0x0A

/-- The characters of a text with the bytes at which they start. The first of
them starts at `offset`. -/
def charIndices (offset : Nat) : List Char → List (Nat × Char)
  | [] => []
  | c :: rest => (offset, c) :: charIndices (offset + c.utf8Size) rest

/-- A line starts at byte `i`. -/
def IsLineStart (text : List Char) (i : Nat) : Prop :=
  i = 0 ∨ (encode text)[i - 1]? = some feed

instance (text : List Char) : DecidablePred (IsLineStart text) := fun i =>
  inferInstanceAs (Decidable (i = 0 ∨ (encode text)[i - 1]? = some feed))

/-- The last line start at or before a byte. -/
def lineStart (text : List Char) (offset : Nat) : Nat :=
  Nat.findGreatest (IsLineStart text) offset

/-- UTF-16 units of a text. -/
def units (text : List Char) : Nat :=
  (text.map units16).sum

/-- UTF-16 units of the characters that start in a span. -/
def unitsWithin (text : List Char) (span : ByteSpan) : Nat :=
  units (((charIndices 0 text).filter fun entry =>
    span.start ≤ entry.1 ∧ entry.1 < span.stop).map (·.2))

/-- All lines of a text are over: behind it a new one starts. -/
def EndsLines (text : List Char) : Prop :=
  text = [] ∨ ∃ lines, text = lines ++ ['\n']

/-- A beginning of a text that reaches byte `limit` and whose characters all
start before it. The last of them may end behind it. -/
structure IsWalked (front : List Char) (limit : Nat) : Prop where
  reaches : limit ≤ byteLength front
  starts : ∀ {before c behind}, front = before ++ c :: behind → byteLength before < limit

theorem utf8Size_feed : '\n'.utf8Size = 1 := by decide

theorem units16_pos (c : Char) : 0 < units16 c := by
  unfold units16
  split
  · exact Nat.one_pos
  · exact Nat.two_pos

theorem units16_le_utf8Size (c : Char) : units16 c ≤ c.utf8Size := by
  have hsize := c.utf8Size_pos
  unfold units16
  split
  · exact hsize
  · next hwide =>
      have hval : c.toNat = c.val.toNat := rfl
      rcases c.utf8Size_eq with h | h | h | h
      · have hle := UInt32.le_iff_toNat_le.mp (Char.utf8Size_eq_one_iff.mp h)
        have hbound : c.val.toNat ≤ 127 := hle
        omega
      · omega
      · omega
      · omega

theorem units_le_byteLength (text : List Char) : units text ≤ byteLength text := by
  induction text with
  | nil => exact Nat.le_refl 0
  | cons c rest ih =>
      have hc := units16_le_utf8Size c
      simp only [units, List.map_cons, List.sum_cons, byteLength] at ih ⊢
      omega

/-- The bytes of a text hold a line feed for each of its line feeds. -/
theorem count_feed_encode (text : List Char) : (encode text).count feed = text.count '\n' := by
  induction text with
  | nil => simp
  | cons c rest ih =>
      rw [encode_cons, List.count_append, ih, List.count_cons, Nat.add_comm]
      congr 1
      by_cases hfeed : c = '\n'
      · subst hfeed
        decide
      · have hnone : feed ∉ String.utf8EncodeChar c := fun hmem =>
          hfeed (eq_of_mem_utf8EncodeChar hmem (by decide)).1
        simp [hfeed, List.count_eq_zero.mpr hnone]

theorem feed_mem_encode_iff {text : List Char} : feed ∈ encode text ↔ '\n' ∈ text := by
  rw [← List.count_pos_iff, count_feed_encode, List.count_pos_iff]

/-- A text is lines that are over and one more without an end. -/
theorem exists_last_line (text : List Char) :
    ∃ above last, text = above ++ last ∧ EndsLines above ∧ '\n' ∉ last := by
  induction text with
  | nil => exact ⟨[], [], rfl, .inl rfl, by simp⟩
  | cons c text ih =>
      obtain ⟨above, last, rfl, hends, hlast⟩ := ih
      rcases hends with rfl | ⟨lines, rfl⟩
      · by_cases hfeed : c = '\n'
        · exact ⟨[c], last, rfl, .inr ⟨[], by simp [hfeed]⟩, hlast⟩
        · exact ⟨[], c :: last, rfl, .inl rfl, by simp [hlast, Ne.symm hfeed]⟩
      · exact ⟨c :: lines ++ ['\n'], last, by simp, .inr ⟨c :: lines, rfl⟩, hlast⟩

section Columns

variable {above last rest : List Char} {limit : Nat}

theorem charIndices_append (offset : Nat) (front rest : List Char) :
    charIndices offset (front ++ rest) =
      charIndices offset front ++ charIndices (offset + byteLength front) rest := by
  induction front generalizing offset with
  | nil => simp [charIndices, byteLength]
  | cons c front ih => simp [charIndices, byteLength, ih, Nat.add_assoc]

theorem map_snd_charIndices (offset : Nat) (text : List Char) :
    (charIndices offset text).map (·.2) = text := by
  induction text generalizing offset with
  | nil => rfl
  | cons c rest ih => simp [charIndices, ih]

/-- A character of a text starts where those in front of it end. -/
theorem mem_charIndices {offset : Nat} {text : List Char} {entry : Nat × Char}
    (h : entry ∈ charIndices offset text) :
    ∃ before behind, text = before ++ entry.2 :: behind ∧ entry.1 = offset + byteLength before := by
  induction text generalizing offset with
  | nil => cases h
  | cons c rest ih =>
      rcases List.mem_cons.mp h with rfl | hrest
      · exact ⟨[], rest, rfl, by simp [byteLength]⟩
      · obtain ⟨before, behind, hsplit, hentry⟩ := ih hrest
        refine ⟨c :: before, behind, by simp [hsplit], ?_⟩
        rw [hentry, byteLength, Nat.add_assoc]

/-- Lines that are over end at the limit or before. -/
theorem IsWalked.above_le (hwalked : IsWalked (above ++ last) limit) (hends : EndsLines above) :
    byteLength above ≤ limit := by
  rcases hends with rfl | ⟨lines, rfl⟩
  · exact Nat.zero_le limit
  · have hlines := hwalked.starts (show lines ++ ['\n'] ++ last = lines ++ '\n' :: last by simp)
    simp only [byteLength_append, byteLength, utf8Size_feed]
    omega

/-- No line starts inside of the last one. -/
theorem IsWalked.lineStart_eq (hwalked : IsWalked (above ++ last) limit) (hends : EndsLines above)
    (hlast : '\n' ∉ last) : lineStart (above ++ last ++ rest) limit = byteLength above := by
  have hreaches := hwalked.reaches
  rw [byteLength_append] at hreaches
  rw [lineStart, Nat.findGreatest_eq_iff]
  refine ⟨hwalked.above_le hends, ?_, ?_⟩
  · intro hpos
    rcases hends with rfl | ⟨lines, rfl⟩
    · exact absurd rfl hpos
    · refine .inr ?_
      have hlength : byteLength (lines ++ ['\n']) - 1 = (encode lines).length := by
        simp [byteLength, utf8Size_feed]
      have hfeed : encode ['\n'] = [feed] := by decide +kernel
      rw [hlength, List.append_assoc, encode_append, encode_append, List.append_assoc, hfeed]
      simp
  · rintro i hi hle (rfl | hfeed)
    · exact absurd hi (Nat.not_lt_zero _)
    · rw [encode_append, encode_append, List.append_assoc,
        List.getElem?_append_right (by rw [length_encode]; omega), length_encode,
        List.getElem?_append_left (by rw [length_encode]; omega)] at hfeed
      exact hlast (feed_mem_encode_iff.mp (List.mem_of_getElem? hfeed))

/-- The characters from the last line start on are those of the last line. -/
theorem IsWalked.unitsWithin_eq (hwalked : IsWalked (above ++ last) limit) :
    unitsWithin (above ++ last ++ rest) ⟨byteLength above, limit⟩ = units last := by
  have habove : ∀ entry ∈ charIndices 0 above, ¬ byteLength above ≤ entry.1 := by
    intro entry member
    obtain ⟨before, behind, hsplit, hentry⟩ := mem_charIndices member
    have hsize := entry.2.utf8Size_pos
    rw [hsplit, byteLength_append, byteLength, hentry]
    omega
  have hlast : ∀ entry ∈ charIndices (byteLength above) last,
      byteLength above ≤ entry.1 ∧ entry.1 < limit := by
    intro entry member
    obtain ⟨before, behind, hsplit, hentry⟩ := mem_charIndices member
    have hstart := hwalked.starts
      (show above ++ last = above ++ before ++ entry.2 :: behind by simp [hsplit])
    rw [byteLength_append] at hstart
    omega
  have hrest : ∀ entry ∈ charIndices (byteLength (above ++ last)) rest, ¬ entry.1 < limit := by
    intro entry member
    obtain ⟨before, behind, _, hentry⟩ := mem_charIndices member
    have hreaches := hwalked.reaches
    omega
  have hfilter : (charIndices 0 (above ++ last ++ rest)).filter
      (fun entry => byteLength above ≤ entry.1 ∧ entry.1 < limit) =
      charIndices (byteLength above) last := by
    rw [charIndices_append, charIndices_append, Nat.zero_add, Nat.zero_add, List.filter_append,
      List.filter_append, List.filter_eq_nil_iff.mpr, List.filter_eq_self.mpr,
      List.filter_eq_nil_iff.mpr, List.nil_append, List.append_nil]
    · intro entry member hwithin
      exact hrest entry member (of_decide_eq_true hwithin).2
    · intro entry member
      exact decide_eq_true (hlast entry member)
    · intro entry member hwithin
      exact habove entry member (of_decide_eq_true hwithin).1
  rw [unitsWithin, hfilter, map_snd_charIndices]

/-- The bytes of a walked beginning that stand behind the limit are no line
feeds. -/
theorem IsWalked.count_feed {front : List Char} (hwalked : IsWalked front limit) :
    ((encode (front ++ rest)).take limit).count feed = front.count '\n' := by
  have hbehind : feed ∉ (encode front).drop limit := by
    intro member
    obtain ⟨i, hi⟩ := List.mem_iff_getElem?.mp member
    rw [List.getElem?_drop] at hi
    obtain ⟨before, behind, hsplit, hbefore⟩ := exists_split_of_ascii hi (by decide)
    have hstart := hwalked.starts hsplit
    omega
  have hcount := count_feed_encode front
  rw [← List.take_append_drop limit (encode front), List.count_append,
    List.count_eq_zero.mpr hbehind, Nat.add_zero] at hcount
  rw [encode_append, List.take_append_of_le_length (by rw [length_encode]; exact hwalked.reaches),
    hcount]

end Columns

end Text

section Walk

variable {text : List Char} {here : Position}

theorem foldl_after_line (here : Position) (text : List Char) :
    (text.foldl Position.after here).line = here.line + text.count '\n' := by
  induction text generalizing here with
  | nil => rfl
  | cons c rest ih =>
      rw [List.foldl_cons, ih, List.count_cons]
      by_cases hfeed : c = '\n'
      · simp [Position.after, hfeed]
        omega
      · simp [Position.after, hfeed]

theorem foldl_after_column (hline : '\n' ∉ text) :
    (text.foldl Position.after here).column = here.column + units text := by
  induction text generalizing here with
  | nil => rfl
  | cons c rest ih =>
      obtain ⟨hfeed, hrest⟩ := not_or.mp (mt List.mem_cons.mpr hline)
      rw [List.foldl_cons, ih hrest, Position.after, if_neg (Ne.symm hfeed)]
      simp [units, Nat.add_assoc]

/-- Behind lines that are over a column counts from one. -/
theorem foldl_after_lines {above last : List Char} (hends : EndsLines above) (hlast : '\n' ∉ last) :
    ((above ++ last).foldl Position.after .first).column = 1 + units last := by
  rw [List.foldl_append, foldl_after_column hlast]
  rcases hends with rfl | ⟨lines, rfl⟩
  · rfl
  · simp [Position.after]

/-- A walk takes the characters that start before its limit. -/
theorem exists_walked {limit : Nat} (h : limit ≤ byteLength text) :
    ∃ front rest, text = front ++ rest ∧ IsWalked front limit ∧
      ∀ here : Position, here.walk text limit = front.foldl Position.after here := by
  induction text generalizing limit with
  | nil =>
      obtain rfl : limit = 0 := Nat.le_zero.mp h
      exact ⟨[], [], rfl, ⟨Nat.le_refl 0, by simp⟩, fun _ => rfl⟩
  | cons c text ih =>
      by_cases hlimit : limit = 0
      · exact ⟨[], c :: text, rfl, ⟨by simp [hlimit], by simp⟩, fun _ => by simp [hlimit]⟩
      · rw [byteLength] at h
        obtain ⟨front, rest, rfl, hwalked, hwalk⟩ := ih (Nat.sub_le_iff_le_add'.mpr h)
        refine ⟨c :: front, rest, rfl, ⟨?_, ?_⟩, ?_⟩
        · have hreaches := hwalked.reaches
          rw [byteLength]
          omega
        · intro before other behind hfront
          rcases before with _ | ⟨first, before⟩
          · rw [byteLength]
            omega
          · obtain ⟨rfl, hrest⟩ := List.cons.inj hfront
            have hstart := hwalked.starts hrest
            rw [byteLength]
            omega
        · intro here
          rw [Position.walk, if_neg hlimit, hwalk, List.foldl_cons]

end Walk

namespace LineIndex

/-- What stands before an offset is lines that are over and a beginning of the
line whose number and width the position gives. -/
theorem position_split (text : List Char) (offset : Nat) :
    ∃ above last rest, text = above ++ last ++ rest ∧ EndsLines above ∧ '\n' ∉ last ∧
      IsWalked (above ++ last) (min offset (byteLength text)) ∧
      (ofChars text).position offset = ⟨1 + above.count '\n', 1 + units last⟩ := by
  have hbounded : (ofChars text).position offset =
      (ofChars text).position (min offset (byteLength text)) := by
    simp [position, ofChars]
  obtain ⟨front, rest, htext, hwalked, hwalk⟩ :=
    exists_walked (Nat.min_le_right offset (byteLength text))
  obtain ⟨above, last, rfl, hends, hlast⟩ := exists_last_line front
  refine ⟨above, last, rest, htext, hends, hlast, hwalked, ?_⟩
  rw [hbounded, position_eq_walk, hwalk, Position.mk.injEq]
  refine ⟨?_, foldl_after_lines hends hlast⟩
  rw [foldl_after_line, List.count_append, List.count_eq_zero.mpr hlast]
  rfl

/-- No number of a position is greater than the number of bytes and one more. -/
theorem position_le (text : List Char) (offset : Nat) :
    ((ofChars text).position offset).line ≤ byteLength text + 1 ∧
      ((ofChars text).position offset).column ≤ byteLength text + 1 := by
  obtain ⟨above, last, rest, htext, _, _, _, hposition⟩ := position_split text offset
  have hlines : above.count '\n' ≤ byteLength above := by
    rw [← count_feed_encode, ← length_encode]
    exact List.count_le_length
  have hunits := units_le_byteLength last
  have hlength : byteLength text = byteLength above + byteLength last + byteLength rest := by
    rw [htext, byteLength_append, byteLength_append]
  rw [hposition]
  constructor
  · simp only
    omega
  · simp only
    omega

/-- In a text of this size 32 bits hold the numbers of every position. -/
theorem position_fits {text : List Char} (hsize : byteLength text < 2 ^ 32 - 1) (offset : Nat) :
    ((ofChars text).position offset).line < 2 ^ 32 ∧
      ((ofChars text).position offset).column < 2 ^ 32 := by
  obtain ⟨hline, hcolumn⟩ := position_le text offset
  exact ⟨Nat.lt_of_le_of_lt hline (by omega), Nat.lt_of_le_of_lt hcolumn (by omega)⟩

/-- A position is a count from the beginning: of the line feeds among the bytes
before the offset, and of the units of the characters between the last line
start and the offset, the one that it cuts included. In a text of this size
none of the numbers exceeds 32 bits. -/
theorem position_counts {text : List Char} (hsize : byteLength text < 2 ^ 32 - 1) (offset : Nat) :
    let bounded := min offset (byteLength text)
    let position := (ofChars text).position offset
    position.line = 1 + ((encode text).take bounded).count feed ∧
      position.column = 1 + unitsWithin text ⟨lineStart text bounded, bounded⟩ ∧
      position.line < 2 ^ 32 ∧ position.column < 2 ^ 32 := by
  intro bounded position
  obtain ⟨above, last, rest, htext, hends, hlast, hwalked, hposition⟩ := position_split text offset
  have hfeeds : ((encode text).take bounded).count feed = above.count '\n' := by
    rw [htext, hwalked.count_feed, List.count_append, List.count_eq_zero.mpr hlast, Nat.add_zero]
  have hstart : lineStart text bounded = byteLength above := by
    rw [htext, hwalked.lineStart_eq hends hlast]
  have hunits : unitsWithin text ⟨byteLength above, bounded⟩ = units last := by
    rw [htext, hwalked.unitsWithin_eq]
  refine ⟨?_, ?_, position_fits hsize offset⟩
  · rw [hfeeds]
    exact congrArg Position.line hposition
  · rw [hstart, hunits]
    exact congrArg Position.column hposition

/-- Byte five is inside of the wide character, which counts as two units. -/
theorem position_counts_wide :
    let text := ['é', '\n', '😀', 'b']
    byteLength text < 2 ^ 32 - 1 ∧ (ofChars text).position 5 = ⟨2, 3⟩ := by
  intro text
  have hsize : byteLength text < 2 ^ 32 - 1 := by decide
  obtain ⟨hline, hcolumn, _⟩ := position_counts hsize 5
  have hfeeds : ((encode text).take (min 5 (byteLength text))).count feed = 1 := by decide +kernel
  have hunits : unitsWithin text ⟨lineStart text (min 5 (byteLength text)),
      min 5 (byteLength text)⟩ = 2 := by decide +kernel
  rw [hfeeds] at hline
  rw [hunits] at hcolumn
  refine ⟨hsize, ?_⟩
  calc (ofChars text).position 5
      = ⟨((ofChars text).position 5).line, ((ofChars text).position 5).column⟩ := rfl
    _ = ⟨2, 3⟩ := by rw [hline, hcolumn]

end LineIndex

end CelWatch
