import CelWatch.Lsp.Feed

/-!
What an editor shows after several rounds of publications. Only the last list
for a document counts. A feed publishes for the documents of a round and for
those that it remembers from the round before, and for no others; still the
editor shows for every document what the last round has for it.
-/

namespace CelWatch.Lsp

/-- The list that was published last for a document, if there was one. -/
def lastFor (uri : Uri) (publications : List Publication) : Option (List Diagnostic) :=
  (publications.filter (·.uri = uri)).getLast?.map Publication.diagnostics

/-- What a round has for a document. -/
def inRound (uri : Uri) (diagnostics : List CelWatch.Diagnostic) : List Diagnostic :=
  (diagnostics.filter (·.uri == uri)).map Diagnostic.ofDiagnostic

variable {uri : Uri} {diagnostics : List CelWatch.Diagnostic}

theorem lastFor_append (uri : Uri) (first second : List Publication) :
    lastFor uri (first ++ second) = (lastFor uri second).or (lastFor uri first) := by
  rw [lastFor, List.filter_append, List.getLast?_append, Option.map_or]
  rfl

theorem inRound_eq_nil (h : uri ∉ diagnostics.map (·.uri)) : inRound uri diagnostics = [] := by
  rw [inRound, List.map_eq_nil_iff, List.filter_eq_nil_iff]
  intro diagnostic member hsame
  rw [beq_iff_eq] at hsame
  exact h (hsame ▸ List.mem_map_of_mem member)

theorem lastFor_map (uri : Uri) (list : Uri → List Diagnostic) (uris : List Uri) :
    lastFor uri (uris.map fun uri => ⟨uri, list uri⟩) =
      if uri ∈ uris then some (list uri) else none := by
  induction uris with
  | nil => rfl
  | cons first rest ih =>
      rw [List.map_cons, ← List.singleton_append, lastFor_append, ih]
      by_cases hrest : uri ∈ rest
      · rw [if_pos hrest, if_pos (List.mem_cons_of_mem _ hrest), Option.some_or]
      · rw [if_neg hrest, Option.none_or]
        by_cases hfirst : first = uri
        · subst hfirst
          rw [if_pos List.mem_cons_self]
          simp [lastFor]
        · have hnone : uri ∉ first :: rest := by
            simp [Ne.symm hfirst, hrest]
          rw [if_neg hnone]
          simp [lastFor, hfirst]

theorem lastFor_planPublications (previous : List Uri)
    (diagnostics : List CelWatch.Diagnostic) (uri : Uri) :
    lastFor uri (planPublications previous diagnostics) =
      if uri ∈ previous ∨ uri ∈ diagnostics.map (·.uri) then some (inRound uri diagnostics)
      else none := by
  have hplan : planPublications previous diagnostics =
      (Ascending.ofList (previous ++ diagnostics.map (·.uri))).map
        fun uri => ⟨uri, inRound uri diagnostics⟩ := rfl
  rw [hplan, lastFor_map]
  simp only [Ascending.mem_ofList, List.mem_append]

namespace Feed

/-- After a round an editor shows what the round has, if it showed nothing for
the documents that were not remembered. -/
theorem next_shows (feed : Feed) (diagnostics : List CelWatch.Diagnostic) {shown : List Diagnostic}
    (hshown : uri ∉ feed.remembered → shown = []) :
    (lastFor uri (feed.next diagnostics).1).getD shown = inRound uri diagnostics ∧
      (uri ∉ (feed.next diagnostics).2.remembered → inRound uri diagnostics = []) := by
  constructor
  · rw [next, lastFor_planPublications]
    by_cases hround : uri ∈ feed.remembered ∨ uri ∈ diagnostics.map (·.uri)
    · rw [if_pos hround, Option.getD_some]
    · rw [not_or] at hround
      rw [if_neg (not_or.mpr hround), Option.getD_none, hshown hround.1, inRound_eq_nil hround.2]
  · intro hforgotten
    refine inRound_eq_nil fun hmem => hforgotten ?_
    exact Ascending.mem_ofList.mpr hmem

theorem nextAll_shows (feed : Feed) (rounds : List (List CelWatch.Diagnostic))
    {shown : List Diagnostic} (hshown : uri ∉ feed.remembered → shown = []) :
    (lastFor uri (feed.nextAll rounds).1).getD shown =
      (rounds.getLast?.map (inRound uri)).getD shown := by
  induction rounds generalizing feed shown with
  | nil => rfl
  | cons diagnostics rest ih =>
      obtain ⟨hround, hforgotten⟩ := feed.next_shows diagnostics hshown
      have hrest := ih (feed.next diagnostics).2 hforgotten
      rw [nextAll, lastFor_append, Option.getD_or, hround, hrest, List.getLast?_cons,
        Option.map_some, Option.getD_some]
      cases rest.getLast? with
      | none => rfl
      | some last => rfl

end Feed

end CelWatch.Lsp
