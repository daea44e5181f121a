import Mathlib.Data.Prod.Lex
import CelWatch.Lsp.Range
import CelWatch.Proofs.Text.Line

/-!
Positions say as much as offsets. They stand in the order of their offsets, and
an editor that cuts the text into lines and counts UTF-16 units along one of
them comes back to the offset that a position was made from. So a span that is
in order gives a range that is.
-/

namespace CelWatch

open Text

namespace Text

/-- A cut at byte `n` falls between two characters or at an end of the text. -/
def IsBoundary (text : List Char) (n : Nat) : Prop :=
  ∃ front rest, text = front ++ rest ∧ byteLength front = n

/-- Number of bytes of the first characters of a line that are `width` UTF-16
units together. -/
def bytesOfUnits? : List Char → (width : Nat) → Option Nat
  | _, 0 => some 0
  | [], _ + 1 => none
  | c :: rest, width + 1 =>
    if units16 c ≤ width + 1 then
      (bytesOfUnits? rest (width + 1 - units16 c)).map (c.utf8Size + ·)
    else
      none

theorem IsBoundary.of_cons {c : Char} {text : List Char} {n : Nat} (h : IsBoundary (c :: text) n)
    (hn : n ≠ 0) : c.utf8Size ≤ n ∧ IsBoundary text (n - c.utf8Size) := by
  obtain ⟨_ | ⟨first, front⟩, rest, htext, rfl⟩ := h
  · exact absurd rfl hn
  · obtain ⟨rfl, rfl⟩ := List.cons.inj htext
    rw [byteLength]
    exact ⟨Nat.le_add_right _ _, front, rest, rfl, (Nat.add_sub_cancel_left ..).symm⟩

end Text

/-- Positions in reading order. -/
def Position.rank (position : Position) : ℕ ×ₗ ℕ :=
  toLex (position.line, position.column)

namespace Lsp

/-- Points in reading order. -/
def Point.rank (point : Point) : ℕ ×ₗ ℕ :=
  toLex (point.line, point.character)

/-- The byte offset that an editor finds for a point. -/
def Point.offset? (text : List Char) (point : Point) : Option Nat := do
  let lines := text.splitOn '\n'
  let line ← lines[point.line]?
  let width ← bytesOfUnits? line point.character
  pure (((lines.take point.line).map fun line => byteLength line + 1).sum + width)

end Lsp

section Order

variable {here : Position} {text : List Char}

theorem rank_lt_after (here : Position) (c : Char) : here.rank < (here.after c).rank := by
  rw [Position.rank, Position.rank, Prod.Lex.toLex_lt_toLex, Position.after]
  split
  · exact .inl (Nat.lt_succ_self here.line)
  · exact .inr ⟨rfl, Nat.lt_add_of_pos_right (units16_pos c)⟩

theorem rank_le_walk (here : Position) (text : List Char) (limit : Nat) :
    here.rank ≤ (here.walk text limit).rank := by
  induction text generalizing here limit with
  | nil => exact le_refl _
  | cons c rest ih =>
      rw [Position.walk]
      split
      · exact le_refl _
      · exact (rank_lt_after here c).le.trans (ih _ _)

theorem rank_walk_mono (here : Position) (text : List Char) :
    Monotone fun limit => (here.walk text limit).rank := by
  intro first last hle
  induction text generalizing here first last with
  | nil => exact le_refl _
  | cons c rest ih =>
      by_cases hfirst : first = 0
      · simpa [hfirst] using rank_le_walk here (c :: rest) last
      · have hlast : last ≠ 0 := by omega
        simp only [Position.walk, if_neg hfirst, if_neg hlast]
        exact ih _ (Nat.sub_le_sub_right hle _)

/-- From one boundary to a later one a walk takes a character at least. -/
theorem rank_walk_strictMono (here : Position) (text : List Char) :
    StrictMonoOn (fun limit => (here.walk text limit).rank) {n | IsBoundary text n} := by
  intro first hfirst last hlast hlt
  have hpos : last ≠ 0 := by omega
  induction text generalizing here first last with
  | nil =>
      obtain ⟨front, rest, hnil, rfl⟩ := hlast
      obtain ⟨rfl, rfl⟩ := List.append_eq_nil_iff.mp hnil.symm
      exact absurd rfl hpos
  | cons c rest ih =>
      obtain ⟨_, hlater⟩ := IsBoundary.of_cons hlast hpos
      simp only [Position.walk, if_neg hpos]
      by_cases hzero : first = 0
      · rw [if_pos hzero]
        exact (rank_lt_after here c).trans_le (rank_le_walk _ _ _)
      · obtain ⟨hfits, hearlier⟩ := IsBoundary.of_cons hfirst hzero
        rw [if_neg hzero]
        exact ih _ hearlier hlater (by omega) (by omega)

theorem rank_ofPosition {first last : Position} (hfirst : 1 ≤ first.line)
    (hle : first.rank ≤ last.rank) :
    (Lsp.Point.ofPosition first).rank ≤ (Lsp.Point.ofPosition last).rank := by
  rw [Position.rank, Position.rank, Prod.Lex.toLex_le_toLex] at hle
  rw [Lsp.Point.rank, Lsp.Point.rank, Prod.Lex.toLex_le_toLex]
  simp only [Lsp.Point.ofPosition] at hle ⊢
  omega

end Order

namespace Text

section Lines

variable {above last rest : List Char}

/-- At a boundary a walk has taken the characters in front of it. -/
theorem IsWalked.eq_front {front walked tail : List Char}
    (hwalked : IsWalked walked (byteLength front)) (htext : walked ++ tail = front ++ rest) :
    walked = front := by
  rcases List.append_eq_append_iff.mp htext with ⟨more, rfl, _⟩ | ⟨more, rfl, _⟩
  · have hreaches := hwalked.reaches
    rw [byteLength_append] at hreaches
    obtain rfl := eq_nil_of_byteLength (show byteLength more = 0 by omega)
    rw [List.append_nil]
  · cases more with
    | nil => exact List.append_nil front
    | cons c behind => exact absurd (hwalked.starts rfl) (Nat.lt_irrefl _)

/-- Each line feed ends a line, and what it ends is as long as the text. -/
theorem splitOn_feeds (text : List Char) :
    (text.splitOn '\n').length = text.count '\n' + 1 ∧
      ((text.splitOn '\n').map fun line => byteLength line + 1).sum = byteLength text + 1 := by
  induction text with
  | nil => decide
  | cons c rest ih =>
      obtain ⟨line, lines, hlines⟩ := List.exists_cons_of_ne_nil (List.splitOn_ne_nil '\n' rest)
      rw [hlines, List.length_cons, List.map_cons, List.sum_cons] at ih
      obtain ⟨hlength, hsum⟩ := ih
      rw [List.splitOn_cons_eq_if_modifyHead, hlines, List.count_cons, byteLength]
      by_cases hfeed : c = '\n'
      · subst hfeed
        rw [if_pos (by decide), if_pos (by decide), utf8Size_feed]
        simp only [List.length_cons, List.map_cons, List.sum_cons, byteLength]
        exact ⟨by omega, by omega⟩
      · have hother : ¬(c == '\n') = true := by simpa using hfeed
        rw [if_neg hother, if_neg hother]
        simp only [List.modifyHead_cons, List.length_cons, List.map_cons, List.sum_cons, byteLength]
        exact ⟨by omega, by omega⟩

/-- Lines that are over are cut off one by one. -/
theorem exists_lines (hends : EndsLines above) :
    ∃ lines : List (List Char), lines.length = above.count '\n' ∧
      (lines.map fun line => byteLength line + 1).sum = byteLength above ∧
      ∀ rest, (above ++ rest).splitOn '\n' = lines ++ rest.splitOn '\n' := by
  rcases hends with rfl | ⟨text, rfl⟩
  · exact ⟨[], rfl, rfl, fun _ => rfl⟩
  · obtain ⟨hcount, hsum⟩ := splitOn_feeds text
    refine ⟨text.splitOn '\n', by simp [hcount], ?_, ?_⟩
    · simp [hsum, byteLength, utf8Size_feed]
    · intro rest
      rw [List.append_assoc]
      exact List.splitOnP_append_cons text rest (by decide)

theorem exists_line (hlast : '\n' ∉ last) (rest : List Char) :
    ∃ tail lines, (last ++ rest).splitOn '\n' = (last ++ tail) :: lines := by
  induction last with
  | nil => exact List.exists_cons_of_ne_nil (List.splitOn_ne_nil '\n' rest)
  | cons c last ih =>
      obtain ⟨hfeed, hmore⟩ := not_or.mp (mt List.mem_cons.mpr hlast)
      obtain ⟨tail, lines, hlines⟩ := ih hmore
      refine ⟨tail, lines, ?_⟩
      have hother : ¬(c == '\n') = true := by simpa using Ne.symm hfeed
      rw [List.cons_append, List.splitOn_cons_eq_if_modifyHead, if_neg hother, hlines]
      rfl

/-- The units of the beginning of a line lead to its end. -/
theorem bytesOfUnits?_append (front rest : List Char) :
    bytesOfUnits? (front ++ rest) (units front) = some (byteLength front) := by
  induction front with
  | nil => simp [units, bytesOfUnits?, byteLength]
  | cons c front ih =>
      have hunits := units16_pos c
      obtain ⟨width, hwidth⟩ : ∃ width, units (c :: front) = width + 1 :=
        ⟨units (c :: front) - 1, by simp only [units, List.map_cons, List.sum_cons]; omega⟩
      have hfits : units16 c ≤ width + 1 := by
        rw [← hwidth, units, List.map_cons, List.sum_cons]
        exact Nat.le_add_right _ _
      have hleft : width + 1 - units16 c = units front := by
        rw [← hwidth, units, List.map_cons, List.sum_cons]
        exact Nat.add_sub_cancel_left ..
      rw [hwidth, List.cons_append, bytesOfUnits?, if_pos hfits, hleft, ih]
      rfl

end Lines

end Text

/-- Behind lines that are over and a beginning of the next one the editor finds
the point that says how many there are and how wide the beginning is. -/
theorem offset?_of_lines {above last : List Char} (hends : EndsLines above)
    (hlast : '\n' ∉ last) (rest : List Char) :
    Lsp.Point.offset? (above ++ last ++ rest) ⟨above.count '\n', units last⟩ =
      some (byteLength (above ++ last)) := by
  obtain ⟨lines, hcount, hsum, hlines⟩ := exists_lines hends
  obtain ⟨tail, more, hline⟩ := exists_line hlast rest
  have hsplit : (above ++ last ++ rest).splitOn '\n' = lines ++ (last ++ tail) :: more := by
    rw [List.append_assoc, hlines, hline]
  rw [Lsp.Point.offset?, hsplit]
  simp [← hcount, bytesOfUnits?_append, hsum]

namespace LineIndex

variable (text : List Char)

theorem rank_position_mono : Monotone fun n => ((ofChars text).position n).rank := by
  simp only [position_eq_walk]
  exact rank_walk_mono .first text

theorem offset?_position {n : Nat} (h : IsBoundary text n) :
    (Lsp.Point.ofPosition ((ofChars text).position n)).offset? text = some n := by
  obtain ⟨front, behind, htext, rfl⟩ := h
  obtain ⟨above, last, rest, hsplit, hends, hlast, hwalked, hposition⟩ :=
    position_split text (byteLength front)
  have hle : byteLength front ≤ byteLength text := by
    rw [htext, byteLength_append]
    exact Nat.le_add_right _ _
  rw [Nat.min_eq_left hle] at hwalked
  have hfront : above ++ last = front := hwalked.eq_front (hsplit.symm.trans htext)
  have hpoint : Lsp.Point.ofPosition ((ofChars text).position (byteLength front)) =
      ⟨above.count '\n', units last⟩ := by
    rw [hposition, Lsp.Point.ofPosition]
    simp
  rw [hpoint, hsplit, offset?_of_lines hends hlast, hfront]

/-- Positions stand in the order of their offsets, those of boundaries apart
from each other, and the editor goes back from a position to the boundary it was
made from. The ends of a span in order are a range in order. In a text of this
size 32 bits hold every number. -/
theorem positions_faithful {text : List Char} (hsize : byteLength text < 2 ^ 32 - 1) :
    let index := ofChars text
    (∀ n, (index.position n).line < 2 ^ 32 ∧ (index.position n).column < 2 ^ 32) ∧
      Monotone (fun n => (index.position n).rank) ∧
      StrictMonoOn (fun n => (index.position n).rank) {n | IsBoundary text n} ∧
      (∀ n, IsBoundary text n →
        (Lsp.Point.ofPosition (index.position n)).offset? text = some n) ∧
      ∀ span : ByteSpan, span.start ≤ span.stop →
        let range := Lsp.Range.ofPositions (index.span span).1 (index.span span).2
        range.start.rank ≤ range.stop.rank := by
  intro index
  refine ⟨position_fits hsize, rank_position_mono text, ?_, fun n => offset?_position text, ?_⟩
  · simp only [index, position_eq_walk]
    exact rank_walk_strictMono .first text
  · intro span hordered
    obtain ⟨_, _, _, _, _, _, _, hposition⟩ := position_split text span.start
    refine rank_ofPosition ?_ (rank_position_mono text hordered)
    rw [LineIndex.span, hposition]
    exact Nat.le_add_right 1 _

/-- In the second line, from in front of a wide character to behind it. -/
theorem positions_faithful_wide :
    let text := ['é', '\n', '😀', 'b']
    let index := ofChars text
    byteLength text < 2 ^ 32 - 1 ∧ IsBoundary text 3 ∧ IsBoundary text 7 ∧
      (index.position 3).rank < (index.position 7).rank ∧
      (Lsp.Point.ofPosition (index.position 7)).offset? text = some 7 := by
  intro text index
  have hsize : byteLength text < 2 ^ 32 - 1 := by decide
  have hfront : IsBoundary text 3 := ⟨['é', '\n'], ['😀', 'b'], rfl, by decide⟩
  have hbehind : IsBoundary text 7 := ⟨['é', '\n', '😀'], ['b'], rfl, by decide⟩
  obtain ⟨_, _, hstrict, hback, _⟩ := positions_faithful hsize
  exact ⟨hsize, hfront, hbehind, hstrict hfront hbehind (by decide), hback 7 hbehind⟩

end LineIndex

end CelWatch
