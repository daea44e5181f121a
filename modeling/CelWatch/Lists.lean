/-!
Facts about lists that belong to no part of the program: where the one element
of a kind stands, what a prefix is made of, and a list to which only one key
adds anything.
-/

namespace CelWatch.Lists

section Place

variable {α : Type} {p : α → Bool} {items front back front' back' : List α}
  {last item entry entry' : α} {place : Nat}

theorem getElem?_concat_eq_some_iff :
    (items ++ [last])[place]? = some item ↔
      items[place]? = some item ∨ place = items.length ∧ last = item := by
  rw [List.getElem?_append]
  split
  · next hbefore => simp [Nat.ne_of_lt hbefore]
  · next hbehind =>
      have hfirst : place - items.length = 0 ↔ place = items.length := by omega
      rw [List.getElem?_singleton, List.getElem?_eq_none (Nat.le_of_not_lt hbehind)]
      simp [hfirst]

/-- A list has one last place where something holds. -/
theorem last_place_unique (h : front ++ entry :: back = front' ++ entry' :: back')
    (hentry : p entry = true) (hentry' : p entry' = true) (hback : back.filter p = [])
    (hback' : back'.filter p = []) : front = front' := by
  rw [List.filter_eq_nil_iff] at hback hback'
  rcases List.append_eq_append_iff.mp h with ⟨middle, hfront, hrest⟩ | ⟨middle, hfront, hrest⟩
  · cases middle with
    | nil => rw [hfront, List.append_nil]
    | cons head tail =>
        have htail := (List.cons.inj hrest).2
        exact absurd hentry' (hback entry' (by simp [htail]))
  · cases middle with
    | nil => rw [hfront, List.append_nil]
    | cons head tail =>
        have htail := (List.cons.inj hrest).2
        exact absurd hentry (hback' entry (by simp [htail]))

theorem filter_eq_singleton (hsplit : items = front ++ entry :: back) (hentry : p entry = true)
    (hplace : ∀ place other rest, items = place ++ other :: rest → p other = true →
      place = front) : items.filter p = [entry] := by
  have hfront : front.filter p = [] := by
    refine List.filter_eq_nil_iff.mpr fun other hmem hother => ?_
    obtain ⟨place, rest, hother'⟩ := List.append_of_mem hmem
    rw [hother', List.append_assoc] at hsplit
    have hlength := congrArg List.length ((hplace _ _ _ hsplit hother).trans hother')
    simp at hlength
  have hback : back.filter p = [] := by
    refine List.filter_eq_nil_iff.mpr fun other hmem hother => ?_
    obtain ⟨place, rest, rfl⟩ := List.append_of_mem hmem
    rw [← List.cons_append, ← List.append_assoc] at hsplit
    have hlength := congrArg List.length (hplace _ _ _ hsplit hother)
    simp at hlength
  rw [hsplit, List.filter_append, List.filter_cons, if_pos hentry, hfront, hback]
  rfl

end Place

section Prefix

variable {α : Type} {p : List α → Prop} {front rest whole : List α} {first : α}

theorem forall_prefix_cons :
    (∀ front, front <+: first :: rest → p front) ↔
      p [] ∧ ∀ front, front <+: rest → p (first :: front) := by
  constructor
  · intro h
    exact ⟨h [] List.nil_prefix, fun front hfront => h _ ((List.prefix_cons_inj first).mpr hfront)⟩
  · rintro ⟨hnil, hcons⟩ front hfront
    rcases List.prefix_cons_iff.mp hfront with rfl | ⟨shorter, rfl, hshorter⟩
    · exact hnil
    · exact hcons shorter hshorter

theorem exists_of_prefix_append (h : whole <+: front ++ rest) :
    whole <+: front ∨ ∃ shorter, shorter <+: rest ∧ whole = front ++ shorter := by
  rcases List.prefix_or_prefix_of_prefix h (List.prefix_append front rest) with hfront | ⟨_, rfl⟩
  · exact .inl hfront
  · exact .inr ⟨_, (List.prefix_append_right_inj front).mp h, rfl⟩

end Prefix

/-- What all keys but one add is nothing. -/
theorem flatMap_eq_of_nodup {α β : Type} {keys : List α} {list : α → List β} {key : α}
    (hnodup : keys.Nodup) (hothers : ∀ other ∈ keys, other ≠ key → list other = [])
    (habsent : key ∉ keys → list key = []) : keys.flatMap list = list key := by
  induction keys with
  | nil => exact (habsent List.not_mem_nil).symm
  | cons first rest ih =>
      obtain ⟨hfirst, hrest⟩ := List.nodup_cons.mp hnodup
      rw [List.flatMap_cons]
      by_cases hkey : first = key
      · subst hkey
        have hnone : rest.flatMap list = [] := by
          refine List.flatMap_eq_nil_iff.mpr fun other member => ?_
          refine hothers other (List.mem_cons_of_mem _ member) ?_
          rintro rfl
          exact hfirst member
        rw [hnone, List.append_nil]
      · rw [hothers first List.mem_cons_self hkey, List.nil_append]
        refine ih hrest (fun other member => hothers other (List.mem_cons_of_mem _ member)) ?_
        intro hkeys
        refine habsent fun hmem => ?_
        rcases List.mem_cons.mp hmem with hsame | hlater
        · exact hkey hsame.symm
        · exact hkeys hlater

end CelWatch.Lists
