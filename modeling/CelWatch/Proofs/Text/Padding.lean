import Mathlib.Data.List.TakeWhile
import CelWatch.Text.Blank

/-!
Texts with blanks around them. What trimming leaves of a text is the one part of
it that has no blank at an end and only blanks around it.
-/

namespace CelWatch.Text

/-- No blank stands at either end. -/
def Trimmed (text : List Char) : Prop :=
  (∀ c ∈ text.head?, isBlank c = false) ∧ ∀ c ∈ text.getLast?, isBlank c = false

/-- A text with any blanks on both sides of it. -/
def Padded (text core : List Char) : Prop :=
  ∃ front back, text = front ++ core ++ back ∧ (∀ c ∈ front, isBlank c = true) ∧
    ∀ c ∈ back, isBlank c = true

section Trim

variable {text core : List Char}

theorem Padded.refl (core : List Char) : Padded core core :=
  ⟨[], [], by simp, by simp, by simp⟩

theorem trimmed_of_not_blank (h : ∀ c ∈ text, isBlank c = false) : Trimmed text :=
  ⟨fun c member => h c (List.mem_of_mem_head? member),
    fun c member => h c (List.mem_of_mem_getLast? member)⟩

theorem dropWhile_isBlank_of_head (h : ∀ c ∈ text.head?, isBlank c = false) :
    text.dropWhile isBlank = text := by
  cases text with
  | nil => rfl
  | cons c rest => rw [List.dropWhile_cons_of_neg (by simp [h c rfl])]

theorem isBlank_head_dropWhile (text : List Char) :
    ∀ c ∈ (text.dropWhile isBlank).head?, isBlank c = false := by
  intro c member
  have hnot := List.head?_dropWhile_not isBlank text
  rw [Option.mem_def.mp member] at hnot
  exact hnot

theorem trim_of_padded (h : Padded text core) (htrimmed : Trimmed core) : trim text = core := by
  obtain ⟨front, back, rfl, hfront, hback⟩ := h
  have hback' : ∀ c ∈ back.reverse, isBlank c = true := fun c member =>
    hback c (List.mem_reverse.mp member)
  cases core with
  | nil =>
      have hall : ∀ c ∈ front ++ [] ++ back, isBlank c = true := by
        simpa [or_imp, forall_and] using ⟨hfront, hback⟩
      rw [trim, trimStart, List.dropWhile_eq_nil_iff.mpr hall]
      rfl
  | cons c core =>
      have hstart : trimStart (front ++ c :: core ++ back) = c :: core ++ back := by
        rw [trimStart, List.append_assoc, List.dropWhile_append_of_pos hfront]
        exact dropWhile_isBlank_of_head htrimmed.1
      have hlast : ∀ other ∈ (c :: core).reverse.head?, isBlank other = false := by
        rw [List.head?_reverse]
        exact htrimmed.2
      rw [trim, hstart, trimEnd, List.reverse_append, List.dropWhile_append_of_pos hback',
        dropWhile_isBlank_of_head hlast, List.reverse_reverse]

theorem exists_trim_append (text : List Char) :
    ∃ back, trim text ++ back = trimStart text ∧ ∀ c ∈ back, isBlank c = true := by
  have hboth := List.takeWhile_append_dropWhile (p := isBlank) (l := (trimStart text).reverse)
  refine ⟨((trimStart text).reverse.takeWhile isBlank).reverse, ?_, ?_⟩
  · rw [trim, trimEnd, ← List.reverse_append, hboth, List.reverse_reverse]
  · exact fun c member => List.mem_takeWhile_imp (List.mem_reverse.mp member)

theorem padded_trim (text : List Char) : Padded text (trim text) := by
  obtain ⟨back, hback, hblank⟩ := exists_trim_append text
  refine ⟨text.takeWhile isBlank, back, ?_, fun c member => List.mem_takeWhile_imp member, hblank⟩
  rw [List.append_assoc, hback]
  exact List.takeWhile_append_dropWhile.symm

theorem trimmed_trim (text : List Char) : Trimmed (trim text) := by
  constructor
  · intro c member
    obtain ⟨back, hback, _⟩ := exists_trim_append text
    obtain ⟨rest, hrest⟩ := List.head?_eq_some_iff.mp member
    refine isBlank_head_dropWhile text c ?_
    rw [← trimStart, ← hback, hrest]
    rfl
  · rw [trim, trimEnd, List.getLast?_reverse]
    exact isBlank_head_dropWhile _

theorem trim_trim (text : List Char) : trim (trim text) = trim text :=
  trim_of_padded (.refl _) (trimmed_trim text)

end Trim

end CelWatch.Text
