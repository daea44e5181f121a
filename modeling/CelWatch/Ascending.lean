/-!
Sets kept as ascending lists.
-/

namespace CelWatch.Ascending

variable {α : Type} [LT α] [DecidableLT α] [DecidableEq α]

/-- Puts an element in its place, unless it is there. -/
def insert (x : α) : List α → List α
  | [] => [x]
  | y :: rest => if x = y then y :: rest else if x < y then x :: y :: rest else y :: insert x rest

/-- The elements of a list in ascending order, each once. -/
def ofList (xs : List α) : List α := xs.foldr insert []

theorem mem_insert {x a : α} {xs : List α} : a ∈ insert x xs ↔ a = x ∨ a ∈ xs := by
  induction xs with
  | nil => simp [insert]
  | cons y rest ih =>
      by_cases same : x = y
      · subst same; simp [insert]
      · by_cases less : x < y
        · simp [insert, same, less]
        · simp only [insert, if_neg same, if_neg less, List.mem_cons, ih]
          constructor
          · rintro (h | h | h)
            · exact .inr (.inl h)
            · exact .inl h
            · exact .inr (.inr h)
          · rintro (h | h | h)
            · exact .inr (.inl h)
            · exact .inl h
            · exact .inr (.inr h)

theorem mem_ofList {a : α} {xs : List α} : a ∈ ofList xs ↔ a ∈ xs := by
  induction xs with
  | nil => simp [ofList]
  | cons x rest ih =>
      rw [ofList, List.foldr_cons, ← ofList, mem_insert, ih, List.mem_cons]

section Order

variable (trans : ∀ {a b c : α}, a < b → b < c → a < c)
  (total : ∀ {a b : α}, ¬ a < b → a ≠ b → b < a)
include trans total

theorem pairwise_insert {x : α} {xs : List α} (h : xs.Pairwise (· < ·)) :
    (insert x xs).Pairwise (· < ·) := by
  induction xs with
  | nil => exact List.pairwise_singleton _ x
  | cons y rest ih =>
      obtain ⟨hfirst, hrest⟩ := List.pairwise_cons.mp h
      by_cases same : x = y
      · rwa [insert, if_pos same]
      · by_cases less : x < y
        · rw [insert, if_neg same, if_pos less]
          refine List.pairwise_cons.mpr ⟨?_, h⟩
          intro z member
          rcases List.mem_cons.mp member with rfl | later
          · exact less
          · exact trans less (hfirst z later)
        · rw [insert, if_neg same, if_neg less]
          refine List.pairwise_cons.mpr ⟨?_, ih hrest⟩
          intro z member
          rcases mem_insert.mp member with rfl | later
          · exact total less same
          · exact hfirst z later

theorem pairwise_ofList (xs : List α) : (ofList xs).Pairwise (· < ·) := by
  induction xs with
  | nil => exact .nil
  | cons x rest ih => exact pairwise_insert trans total ih

end Order

end CelWatch.Ascending
