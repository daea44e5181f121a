import CelWatch.Proofs.Lsp.Rounds

/-!
A feed keeps the view of the editor exact. The view of a document is the list
that was published last for it. After every round it is what the round has for
the document, and the documents that the feed remembers are those whose views
are not empty: a document is cleared in the round that takes its diagnostics
away, and in no other.
-/

namespace CelWatch.Lsp

/-- What an editor shows for a document after some publications. -/
def view (uri : Uri) (publications : List Publication) : List Diagnostic :=
  (lastFor uri publications).getD []

variable {uri : Uri} {diagnostics : List CelWatch.Diagnostic}

theorem inRound_eq_nil_iff :
    inRound uri diagnostics = [] ↔ ∀ diagnostic ∈ diagnostics, diagnostic.uri ≠ uri := by
  simp [inRound]

theorem mem_documentsOf :
    uri ∈ documentsOf diagnostics ↔ inRound uri diagnostics ≠ [] := by
  rw [documentsOf, Ascending.mem_ofList, Ne, inRound_eq_nil_iff]
  simp

theorem mem_planPublications {previous : List Uri} {list : List Diagnostic} :
    ⟨uri, list⟩ ∈ planPublications previous diagnostics ↔
      (uri ∈ previous ∨ uri ∈ documentsOf diagnostics) ∧ list = inRound uri diagnostics := by
  rw [planPublications, documentsOf, List.mem_map]
  simp only [Ascending.mem_ofList, List.mem_append, Publication.mk.injEq]
  constructor
  · rintro ⟨_, hdocument, rfl, rfl⟩
    exact ⟨hdocument, rfl⟩
  · rintro ⟨hdocument, rfl⟩
    exact ⟨uri, hdocument, rfl, rfl⟩

/-- The publications of a round ascend, so there is one for a document at most. -/
theorem planPublications_pairwise (previous : List Uri)
    (diagnostics : List CelWatch.Diagnostic) :
    ((planPublications previous diagnostics).map Publication.uri).Pairwise (· < ·) := by
  have huris : (planPublications previous diagnostics).map Publication.uri =
      Ascending.ofList (previous ++ diagnostics.map (·.uri)) := by
    simp [planPublications, Function.comp_def]
  rw [huris]
  exact Ascending.pairwise_ofList Uri.lt_trans Uri.lt_of_not_lt _

namespace Feed

theorem nextAll_concat (feed : Feed) (rounds : List (List CelWatch.Diagnostic))
    (diagnostics : List CelWatch.Diagnostic) :
    feed.nextAll (rounds ++ [diagnostics]) =
      let (publications, after) := feed.nextAll rounds
      let (later, last) := after.next diagnostics
      (publications ++ later, last) := by
  induction rounds generalizing feed with
  | nil => simp [nextAll]
  | cons first rest ih => simp only [List.cons_append, nextAll, ih, List.append_assoc]

/-- A feed remembers the documents that the editor shows something for. -/
theorem remembered_iff (rounds : List (List CelWatch.Diagnostic)) (uri : Uri) :
    uri ∈ (initial.nextAll rounds).2.remembered ↔ view uri (initial.nextAll rounds).1 ≠ [] := by
  rcases List.eq_nil_or_concat rounds with rfl | ⟨earlier, last, rfl⟩
  · simp [nextAll, initial, view, lastFor]
  · have hshown := initial.nextAll_shows (earlier ++ [last]) (fun _ : uri ∉ _ => rfl)
    rw [List.getLast?_concat, Option.map_some, Option.getD_some] at hshown
    rw [List.concat_eq_append, view, hshown, nextAll_concat]
    exact mem_documentsOf

/-- The view of an editor is exact. After every round it is for each document
what the round has for it, in its order. A round publishes in ascending order,
and for a document once at most; an empty list comes for those documents alone
that had something to show before and have nothing in the round. What is
remembered are the documents that have something to show. -/
theorem view_exact (rounds : List (List CelWatch.Diagnostic)) :
    let (told, feed) := initial.nextAll rounds
    (∀ uri, uri ∈ feed.remembered ↔ view uri told ≠ []) ∧
      ∀ diagnostics,
        let (publications, after) := feed.next diagnostics
        initial.nextAll (rounds ++ [diagnostics]) = (told ++ publications, after) ∧
        (∀ uri, view uri (told ++ publications) =
          (diagnostics.filter (·.uri = uri)).map Diagnostic.ofDiagnostic) ∧
        (publications.map Publication.uri).Nodup ∧
        (publications.map Publication.uri).Pairwise (· < ·) ∧
        (∀ uri, ⟨uri, []⟩ ∈ publications ↔
          view uri told ≠ [] ∧ ∀ diagnostic ∈ diagnostics, diagnostic.uri ≠ uri) ∧
        ∀ uri, uri ∈ after.remembered ↔ view uri (told ++ publications) ≠ [] := by
  have hremembered := remembered_iff rounds
  refine ⟨hremembered, ?_⟩
  intro diagnostics
  have hround := nextAll_concat initial rounds diagnostics
  have hsorted := planPublications_pairwise (initial.nextAll rounds).2.remembered diagnostics
  refine ⟨hround, ?_, ?_, hsorted, ?_, ?_⟩
  · intro uri
    have hshown := initial.nextAll_shows (rounds ++ [diagnostics]) (fun _ : uri ∉ _ => rfl)
    rw [List.getLast?_concat, Option.map_some, Option.getD_some, hround] at hshown
    exact hshown
  · refine hsorted.imp ?_
    rintro first _ hless rfl
    exact Uri.lt_irrefl first hless
  · intro uri
    rw [mem_planPublications, ← hremembered, mem_documentsOf, ← inRound_eq_nil_iff]
    constructor
    · rintro ⟨hknown | hround, hempty⟩
      · exact ⟨hknown, hempty.symm⟩
      · exact absurd hempty.symm hround
    · rintro ⟨hknown, hempty⟩
      exact ⟨.inl hknown, hempty.symm⟩
  · intro uri
    have hlater := remembered_iff (rounds ++ [diagnostics]) uri
    rw [hround] at hlater
    exact hlater

end Feed

end CelWatch.Lsp
