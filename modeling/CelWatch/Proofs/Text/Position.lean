import CelWatch.Text.Position

/-!
The position of an offset is where a walk from the start of the text ends that
takes the characters before the offset one by one. A walk over two texts is a
walk over the first and then over the second, and a walk from another origin
ends in the same place as counted from that origin. So the position of an
offset in a part of a text says where it is in the whole.
-/

namespace CelWatch

open Text

/-- The place behind a character. -/
def Position.after (here : Position) (c : Char) : Position :=
  if c = '\n' then ⟨here.line + 1, 1⟩ else ⟨here.line, here.column + units16 c⟩

/-- The place behind the characters that start before byte `limit`. -/
def Position.walk (here : Position) : List Char → Nat → Position
  | [], _ => here
  | c :: rest, limit => if limit = 0 then here else (here.after c).walk rest (limit - c.utf8Size)

/-- The place of a text whose first character stands at `origin`, for a place of
the text alone. Only places of its first line move sideways. -/
def Position.relocate (position origin : Position) : Position where
  line := origin.line + position.line - 1
  column := if position.line = 1 then origin.column + position.column - 1 else position.column

section Bisection

variable {starts : Array Nat} {offset low high : Nat}

theorem LineIndex.bisect_spec (hlt : low < high) (hlow : starts.getD low 0 ≤ offset)
    (hhigh : high < starts.size → offset < starts.getD high 0) :
    let line := bisect starts offset low high
    line < high ∧ starts.getD line 0 ≤ offset ∧
      (line + 1 < starts.size → offset < starts.getD (line + 1) 0) := by
  fun_induction bisect starts offset low high with
  | case1 low high hmore middle hmiddle ih =>
      exact ih (by omega) hmiddle hhigh
  | case2 low high hmore middle hmiddle ih =>
      obtain ⟨hline, hspec⟩ := ih (by omega) hlow fun _ => Nat.lt_of_not_le hmiddle
      exact ⟨by omega, hspec⟩
  | case3 low high hdone =>
      obtain rfl : high = low + 1 := by omega
      exact ⟨hlt, hlow, hhigh⟩

end Bisection

section Walk

variable {text front rest : List Char} {here origin : Position} {offset limit : Nat}

@[simp] theorem walk_zero (here : Position) (text : List Char) : here.walk text 0 = here := by
  cases text with
  | nil => rfl
  | cons c rest => rfl

theorem lt_of_mem_startsAfterFeeds {start : Nat} (h : start ∈ startsAfterFeeds offset text) :
    offset < start := by
  induction text generalizing offset with
  | nil => cases h
  | cons c rest ih =>
      have hsize := c.utf8Size_pos
      by_cases hfeed : c = '\n'
      · rw [startsAfterFeeds, if_pos hfeed] at h
        rcases List.mem_cons.mp h with rfl | hlater
        · omega
        · have := ih hlater
          omega
      · rw [startsAfterFeeds, if_neg hfeed] at h
        have := ih h
        omega

/-- Up to the first line feed a walk stays in its line. -/
theorem walk_in_line (h : ∀ start ∈ (startsAfterFeeds offset text).head?, offset + limit < start) :
    here.walk text limit = ⟨here.line, here.column + unitsBefore text limit⟩ := by
  induction text generalizing here offset limit with
  | nil => rfl
  | cons c rest ih =>
      by_cases hlimit : limit = 0
      · simp [Position.walk, unitsBefore, hlimit]
      · by_cases hfeed : c = '\n'
        · rw [startsAfterFeeds, if_pos hfeed, hfeed] at h
          have hsize : '\n'.utf8Size = 1 := by decide
          have := h _ rfl
          omega
        · rw [startsAfterFeeds, if_neg hfeed] at h
          have hrest : ∀ start ∈ (startsAfterFeeds (offset + c.utf8Size) rest).head?,
              offset + c.utf8Size + (limit - c.utf8Size) < start := by
            intro start member
            have hlt := lt_of_mem_startsAfterFeeds (List.mem_of_head? member)
            have := h start member
            omega
          rw [Position.walk, if_neg hlimit, ih hrest, unitsBefore, if_neg hlimit, Position.after,
            if_neg hfeed]
          simp [Nat.add_assoc]

/-- The line that the starts give for an offset is the one in which a walk ends.
Of the starts it counts which one is the last at or before the offset. -/
theorem walk_of_start {line start : Nat} (hstart : (startsAfterFeeds offset text)[line]? = some start)
    (hle : start ≤ offset + limit)
    (hnext : ∀ next ∈ (startsAfterFeeds offset text)[line + 1]?, offset + limit < next) :
    here.walk text limit =
      ⟨here.line + line + 1, unitsBefore ((dropBytes? text (start - offset)).getD [])
        (offset + limit - start) + 1⟩ := by
  induction text generalizing here offset limit line with
  | nil => cases hstart
  | cons c rest ih =>
      have hsize := c.utf8Size_pos
      have hlt := lt_of_mem_startsAfterFeeds (List.mem_of_getElem? hstart)
      have hlimit : limit ≠ 0 := by omega
      -- A start behind the first character is cut off the text behind it.
      have hdrop : ∀ {start}, offset + c.utf8Size ≤ start →
          dropBytes? (c :: rest) (start - offset) =
            dropBytes? rest (start - (offset + c.utf8Size)) := by
        intro start hstart
        obtain ⟨n, hn⟩ : ∃ n, start - offset = n + 1 := ⟨start - offset - 1, by omega⟩
        rw [hn, dropBytes?, if_pos (by omega)]
        congr 1
        omega
      rw [Position.walk, if_neg hlimit]
      by_cases hfeed : c = '\n'
      · have hone : c.utf8Size = 1 := by rw [hfeed]; decide
        rw [startsAfterFeeds, if_pos hfeed] at hstart hnext
        rw [Position.after, if_pos hfeed]
        cases line with
        | zero =>
            obtain rfl := Option.some.inj hstart
            have hline : ∀ next ∈ (startsAfterFeeds (offset + c.utf8Size) rest).head?,
                offset + c.utf8Size + (limit - c.utf8Size) < next := by
              intro next member
              rw [List.head?_eq_getElem?] at member
              have := hnext next member
              omega
            rw [walk_in_line hline, hdrop (Nat.le_refl _), Nat.sub_self]
            have hleft : offset + limit - (offset + c.utf8Size) = limit - c.utf8Size := by omega
            simp [dropBytes?, hleft, Nat.add_comm]
        | succ line =>
            have hpast := lt_of_mem_startsAfterFeeds (List.mem_of_getElem? hstart)
            rw [ih hstart (by omega) fun next member => by have := hnext next member; omega,
              hdrop (by omega)]
            have hleft : offset + c.utf8Size + (limit - c.utf8Size) = offset + limit := by omega
            simp [hleft]
            omega
      · rw [startsAfterFeeds, if_neg hfeed] at hstart hnext
        have hpast := lt_of_mem_startsAfterFeeds (List.mem_of_getElem? hstart)
        rw [ih hstart (by omega) fun next member => by have := hnext next member; omega,
          hdrop (by omega)]
        have hleft : offset + c.utf8Size + (limit - c.utf8Size) = offset + limit := by omega
        rw [hleft, Position.after, if_neg hfeed]

theorem walk_append (here : Position) (front rest : List Char) (limit : Nat) :
    here.walk (front ++ rest) (byteLength front + limit) =
      (here.walk front (byteLength front)).walk rest limit := by
  induction front generalizing here with
  | nil => simp [byteLength]
  | cons c front ih =>
      have hsize := c.utf8Size_pos
      have hleft : c.utf8Size + byteLength front + limit - c.utf8Size = byteLength front + limit := by
        omega
      have hfront : c.utf8Size + byteLength front - c.utf8Size = byteLength front := by omega
      rw [List.cons_append, byteLength, Position.walk, Position.walk, if_neg (by omega),
        if_neg (by omega), hleft, hfront, ih]

/-- What stands behind the limit plays no part. -/
theorem walk_append_of_le (here : Position) {front : List Char} (rest : List Char) {limit : Nat}
    (h : limit ≤ byteLength front) : here.walk (front ++ rest) limit = here.walk front limit := by
  induction front generalizing here limit with
  | nil =>
      obtain rfl : limit = 0 := Nat.le_zero.mp h
      simp
  | cons c front ih =>
      rw [byteLength] at h
      rw [List.cons_append, Position.walk, Position.walk, ih _ (by omega)]

theorem walk_of_byteLength_le (here : Position) {text : List Char} {limit : Nat}
    (h : byteLength text ≤ limit) : here.walk text limit = here.walk text (byteLength text) := by
  obtain ⟨more, rfl⟩ := Nat.exists_eq_add_of_le h
  have hwalk := walk_append here text [] more
  rw [List.append_nil] at hwalk
  exact hwalk

theorem Position.relocate_first (origin : Position) : Position.first.relocate origin = origin := by
  simp [relocate, Position.first]

theorem after_relocate (origin : Position) (c : Char) (hline : 1 ≤ here.line)
    (hcolumn : 1 ≤ here.column) :
    (here.relocate origin).after c = (here.after c).relocate origin := by
  by_cases hfeed : c = '\n'
  · have hother : here.line ≠ 0 := by omega
    simp [Position.after, Position.relocate, hfeed, hother]
    omega
  · by_cases hfirst : here.line = 1
    · simp [Position.after, Position.relocate, hfeed, hfirst]
      omega
    · simp [Position.after, Position.relocate, hfeed, hfirst]

theorem walk_relocate (origin : Position) (text : List Char) (limit : Nat) (hline : 1 ≤ here.line)
    (hcolumn : 1 ≤ here.column) :
    (here.relocate origin).walk text limit = (here.walk text limit).relocate origin := by
  induction text generalizing here limit with
  | nil => rfl
  | cons c rest ih =>
      by_cases hlimit : limit = 0
      · simp [Position.walk, hlimit]
      · have hnext : 1 ≤ (here.after c).line ∧ 1 ≤ (here.after c).column := by
          unfold Position.after
          split
          · simp
          · simp only
            omega
        rw [Position.walk, if_neg hlimit, after_relocate origin c hline hcolumn,
          ih _ hnext.1 hnext.2, Position.walk, if_neg hlimit]

end Walk

namespace LineIndex

variable (text : List Char)

/-- The start that the bisection finds is the last one at or before the offset. -/
theorem position_spec (offset : Nat) :
    let bounded := min offset (byteLength text)
    ∃ line start, (0 :: startsAfterFeeds 0 text)[line]? = some start ∧ start ≤ bounded ∧
      (∀ next ∈ (startsAfterFeeds 0 text)[line]?, bounded < next) ∧
      (ofChars text).position offset =
        ⟨line + 1, unitsBefore ((dropBytes? text start).getD []) (bounded - start) + 1⟩ := by
  let starts := (ofChars text).starts
  let bounded := min offset (byteLength text)
  let line := bisect starts bounded 0 starts.size
  have hsize : starts.size = (startsAfterFeeds 0 text).length + 1 := by simp [starts, ofChars]
  have hget : ∀ i, starts.getD i 0 = (0 :: startsAfterFeeds 0 text)[i]?.getD 0 := by
    intro i
    simp [starts, ofChars]
  obtain ⟨hline, hle, hnext⟩ := bisect_spec (show 0 < starts.size by omega)
    (show starts.getD 0 0 ≤ bounded by simp [hget]) fun hlt => absurd hlt (Nat.lt_irrefl _)
  refine ⟨line, starts.getD line 0, ?_, hle, ?_, rfl⟩
  · have hlt : line < (0 :: startsAfterFeeds 0 text).length := by
      rw [List.length_cons, ← hsize]
      exact hline
    rw [hget, List.getElem?_eq_getElem hlt]
    rfl
  · intro next member
    have hlt := (List.getElem?_eq_some_iff.mp member).1
    have hbound := hnext (by omega)
    rw [hget, List.getElem?_cons_succ, member] at hbound
    exact hbound

/-- The line index finds the place where the walk ends. -/
theorem position_eq_walk (offset : Nat) :
    (ofChars text).position offset = Position.first.walk text offset := by
  let bounded := min offset (byteLength text)
  have hwalk : Position.first.walk text offset = Position.first.walk text bounded := by
    by_cases hle : byteLength text ≤ offset
    · rw [walk_of_byteLength_le _ hle]
      simp [bounded, Nat.min_eq_right hle]
    · simp [bounded, Nat.min_eq_left (Nat.le_of_not_le hle)]
  obtain ⟨line, start, hstart, hle, hnext, hposition⟩ := position_spec text offset
  rw [← Nat.zero_add (min offset _)] at hle hnext
  rw [hposition, hwalk]
  cases line with
  | zero =>
      obtain rfl : 0 = start := Option.some.inj hstart
      rw [← List.head?_eq_getElem?] at hnext
      rw [walk_in_line hnext]
      simp [dropBytes?, Position.first, Nat.add_comm]
  | succ line =>
      rw [walk_of_start hstart hle hnext]
      simp [Position.first, Nat.add_comm]

/-- The position of an offset in a part of a text leads to its position in the
whole. -/
theorem position_within (front part rest : List Char) {offset : Nat}
    (h : offset ≤ byteLength part) :
    (ofChars (front ++ part ++ rest)).position (byteLength front + offset) =
      ((ofChars part).position offset).relocate
        ((ofChars (front ++ part ++ rest)).position (byteLength front)) := by
  have horigin : Position.first.walk (front ++ (part ++ rest)) (byteLength front) =
      Position.first.walk front (byteLength front) :=
    walk_append_of_le _ _ (Nat.le_refl _)
  rw [List.append_assoc, position_eq_walk, position_eq_walk, position_eq_walk, walk_append,
    walk_append_of_le _ _ h, horigin, ← walk_relocate _ _ _ (Nat.le_refl 1) (Nat.le_refl 1),
    Position.relocate_first]

end LineIndex

end CelWatch
