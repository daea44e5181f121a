import CelWatch.Proofs.Settings.Guarded
import CelWatch.Proofs.Template.Guarded

/-!
No text leads to a cut inside a character or to an index out of bounds. Lines
start behind line feeds, so the start that the bisection finds is the end of a
character; together with the scans of templates and of type texts this is every
place where bytes of a text are counted and it is cut there.
-/

namespace CelWatch

open Text

namespace LineIndex

/-- Each line starts behind a character. -/
theorem split_of_mem_startsAfterFeeds {offset start : Nat} {text : List Char}
    (h : start ∈ startsAfterFeeds offset text) :
    ∃ front rest, text = front ++ rest ∧ start = offset + byteLength front := by
  induction text generalizing offset with
  | nil => cases h
  | cons c rest ih =>
      have hlater : start ∈ startsAfterFeeds (offset + c.utf8Size) rest →
          ∃ front behind, c :: rest = front ++ behind ∧ start = offset + byteLength front := by
        intro member
        obtain ⟨front, behind, rfl, hstart⟩ := ih member
        exact ⟨c :: front, behind, rfl, by rw [hstart, byteLength, Nat.add_assoc]⟩
      rw [startsAfterFeeds] at h
      split at h
      · rcases List.mem_cons.mp h with rfl | hmore
        · exact ⟨[c], rest, rfl, by simp [byteLength]⟩
        · exact hlater hmore
      · exact hlater h

/-- The position of a byte offset, with a guard on the line and on the cut at
its start. -/
def guardedPosition (index : LineIndex) (offset : Nat) : Option Position :=
  let offset := min offset index.length
  let line := index.lineOf offset
  match index.starts[line]? with
  | none => none
  | some start =>
    match dropBytes? index.text start with
    | none => none
    | some tail => some ⟨line + 1, unitsBefore tail (offset - start) + 1⟩

/-- The line of an offset is one of the lines, and it starts between two
characters at or before the offset. -/
theorem exists_start (text : List Char) (offset : Nat) :
    let index := ofChars text
    let bounded := min offset index.length
    ∃ start tail, index.starts[index.lineOf bounded]? = some start ∧ start ≤ bounded ∧
      dropBytes? text start = some tail := by
  intro index bounded
  have hstarts : index.starts.toList = 0 :: startsAfterFeeds 0 text := rfl
  have hfirst : index.starts.getD 0 0 ≤ bounded := by simp [index, ofChars]
  obtain ⟨hline, hle, _⟩ := bisect_spec (show 0 < index.starts.size by simp [index, ofChars]) hfirst
    fun hlt => absurd hlt (Nat.lt_irrefl _)
  obtain ⟨start, hstart⟩ : ∃ start, index.starts[index.lineOf bounded]? = some start :=
    ⟨_, Array.getElem?_eq_getElem hline⟩
  have hbounded : start ≤ bounded := by
    rw [Array.getD_eq_getD_getElem?] at hle
    rw [lineOf] at hstart
    rwa [hstart] at hle
  have hmem : start ∈ 0 :: startsAfterFeeds 0 text := by
    rw [← hstarts]
    exact Array.mem_toList_iff.mpr (Array.mem_of_getElem? hstart)
  rcases List.mem_cons.mp hmem with rfl | hlater
  · exact ⟨0, text, hstart, hbounded, dropBytes?_append [] text⟩
  · obtain ⟨front, rest, rfl, rfl⟩ := split_of_mem_startsAfterFeeds hlater
    rw [Nat.zero_add] at hstart hbounded
    exact ⟨byteLength front, rest, hstart, hbounded, dropBytes?_append front rest⟩

theorem guardedPosition_eq (text : List Char) (offset : Nat) :
    (ofChars text).guardedPosition offset = some ((ofChars text).position offset) := by
  obtain ⟨start, tail, hstart, _, htail⟩ := exists_start text offset
  have htext : (ofChars text).text = text := rfl
  simp only [guardedPosition, position, Array.getD_eq_getD_getElem?, hstart, htext, htail,
    Option.getD_some]

end LineIndex

/-- Every guard lets every text pass: the regions of a template, the positions of
its offsets, the parameters and the type that it spells come out as without any
guards, and the line that is found for an offset starts in bounds between two
characters. -/
theorem guards_pass (text : String) :
    Template.guardedRegions text 0 = some (Template.regions text) ∧
      (∀ offset,
        let index := LineIndex.ofString text
        let bounded := min offset (byteLength text.toList)
        (∃ start tail, index.starts[index.lineOf bounded]? = some start ∧ start ≤ bounded ∧
          dropBytes? text.toList start = some tail) ∧
        index.guardedPosition offset = some (index.position offset)) ∧
      TypeText.guardedSplit text.toList = some (TypeText.splitParameters text.toList) ∧
      TypeText.guardedParse text.toList = some (TypeText.ofString text) := by
  refine ⟨Template.guardedRegions_eq, fun offset => ⟨?_, ?_⟩, ?_, ?_⟩
  · exact LineIndex.exists_start text.toList offset
  · exact LineIndex.guardedPosition_eq text.toList offset
  · exact TypeText.guardedSplit_eq text.toList
  · exact TypeText.guardedParse_eq text.toList

end CelWatch
