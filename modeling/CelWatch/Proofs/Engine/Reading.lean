import CelWatch.Engine.Cel
import Mathlib.Data.List.Forall2

/-!
What the engine makes of a document goes back to what reading each of its
regions gives. A region has an expression, or reading it stops the engine, and
the first region that stops it decides for the document.
-/

namespace CelWatch.CelEngine

section Root

variable {language : Language} {region : Template.Region} {root : CelRoot} {stop : Stop}

/-- What is read does not depend on where the text stands. -/
theorem root_ok_iff :
    CelEngine.root language region = .ok root ↔
      ∃ expr, language.read region.source = ⟨[], some expr⟩ ∧ root = ⟨expr, region.offset⟩ := by
  rw [CelEngine.root]
  rcases language.read region.source with ⟨_ | ⟨error, more⟩, _ | expr⟩
  · simp
  · simp [eq_comm]
  · simp
  · simp

/-- A language that reads an expression where it reports no error stops the
engine with an error only. -/
theorem root_error (hexpr : (language.read region.source).errors = [] →
      (language.read region.source).expr.isSome)
    (h : CelEngine.root language region = .error stop) :
    ∃ error ∈ (language.read region.source).errors,
      stop = .syntaxError (region.offset + error.offset) error.message ∧
      CelEngine.root language ⟨region.source, 0⟩ =
        .error (.syntaxError (0 + error.offset) error.message) := by
  rw [CelEngine.root] at h ⊢
  rcases hread : language.read region.source with ⟨_ | ⟨error, more⟩, expr⟩
  · rw [hread] at h hexpr
    obtain ⟨saved, rfl⟩ := Option.isSome_iff_exists.mp (hexpr rfl)
    cases h
  · rw [hread] at h
    exact ⟨error, List.mem_cons_self, (Except.error.inj h).symm, rfl⟩

end Root

section Roots

variable {language : Language} {region : Template.Region} {found : List Template.Region}
  {roots : List CelRoot} {stop : Stop}

theorem roots_cons_ok_iff :
    CelEngine.roots language (region :: found) = .ok roots ↔
      ∃ root more, CelEngine.root language region = .ok root ∧
        CelEngine.roots language found = .ok more ∧ roots = root :: more := by
  rw [CelEngine.roots]
  cases CelEngine.root language region with
  | error first => simp
  | ok root =>
      cases CelEngine.roots language found with
      | error later => simp [Except.map]
      | ok more => simp [Except.map, eq_comm]

theorem roots_cons_error_iff :
    CelEngine.roots language (region :: found) = .error stop ↔
      CelEngine.root language region = .error stop ∨
        (∃ root, CelEngine.root language region = .ok root) ∧
          CelEngine.roots language found = .error stop := by
  rw [CelEngine.roots]
  cases CelEngine.root language region with
  | error first => simp
  | ok root =>
      cases CelEngine.roots language found with
      | _ => simp [Except.map]

theorem exists_roots {related : Template.Region → CelRoot → Prop}
    (h : ∀ region ∈ found, ∃ root, CelEngine.root language region = .ok root ∧
      related region root) :
    ∃ roots, CelEngine.roots language found = .ok roots ∧ List.Forall₂ related found roots := by
  induction found with
  | nil => exact ⟨[], rfl, .nil⟩
  | cons region found ih =>
      obtain ⟨root, hroot, hrelated⟩ := h region List.mem_cons_self
      obtain ⟨roots, hroots, hall⟩ := ih fun later member => h later (List.mem_cons_of_mem _ member)
      exact ⟨root :: roots, roots_cons_ok_iff.mpr ⟨root, roots, hroot, hroots, rfl⟩,
        .cons hrelated hall⟩

theorem root_ok_of_roots_ok (h : CelEngine.roots language found = .ok roots) :
    ∀ region ∈ found, ∃ root, CelEngine.root language region = .ok root := by
  induction found generalizing roots with
  | nil => simp
  | cons region found ih =>
      obtain ⟨root, more, hroot, hmore, _⟩ := roots_cons_ok_iff.mp h
      exact List.forall_mem_cons.mpr ⟨⟨root, hroot⟩, ih hmore⟩

/-- Every expression is that of a region. -/
theorem exists_region_of_mem_roots (h : CelEngine.roots language found = .ok roots) :
    ∀ root ∈ roots, ∃ region ∈ found, CelEngine.root language region = .ok root := by
  induction found generalizing roots with
  | nil =>
      cases h
      exact List.forall_mem_nil _
  | cons region found ih =>
      obtain ⟨root, more, hroot, hmore, rfl⟩ := roots_cons_ok_iff.mp h
      refine List.forall_mem_cons.mpr ⟨⟨region, List.mem_cons_self, hroot⟩, ?_⟩
      intro later member
      obtain ⟨other, hother, hlater⟩ := ih hmore later member
      exact ⟨other, List.mem_cons_of_mem _ hother, hlater⟩

/-- The region that stops the engine is the first that has no expression. -/
theorem roots_error (h : CelEngine.roots language found = .error stop) :
    ∃ before region after, found = before ++ region :: after ∧
      (∀ earlier ∈ before, ∃ root, CelEngine.root language earlier = .ok root) ∧
      CelEngine.root language region = .error stop := by
  induction found with
  | nil => cases h
  | cons region found ih =>
      rcases roots_cons_error_iff.mp h with hfailed | ⟨hroot, hlater⟩
      · exact ⟨[], region, found, rfl, by simp, hfailed⟩
      · obtain ⟨before, failed, after, rfl, hbefore, hfailed⟩ := ih hlater
        exact ⟨region :: before, failed, after, rfl, List.forall_mem_cons.mpr ⟨hroot, hbefore⟩,
          hfailed⟩

end Roots

section Outcome

variable {language : Language} {text : String} {isTemplate : Bool}
  {found : List Template.Region} {roots : List CelRoot}

theorem outcome_of_roots (hfound : regions text isTemplate = .ok found)
    (hroots : CelEngine.roots language found = .ok roots) :
    outcome language text isTemplate =
      .parsed ⟨roots⟩ (roots.flatMap (rootIssues language (LineIndex.ofString text))) := by
  simp only [outcome, hfound, hroots]

theorem outcome_of_syntaxError {offset : Nat} {message : String}
    (hfound : regions text isTemplate = .ok found)
    (hroots : CelEngine.roots language found = .error (.syntaxError offset message)) :
    outcome language text isTemplate =
      .syntaxError ((LineIndex.ofString text).position offset) message := by
  simp only [outcome, hfound, hroots]

theorem outcome_of_failure {detail : String} (hfound : regions text isTemplate = .ok found)
    (hroots : CelEngine.roots language found = .error (.failure detail)) :
    outcome language text isTemplate = .failure detail := by
  simp only [outcome, hfound, hroots]

theorem roots_of_parsed {tree : CelTree} {issues : List Issue}
    (h : outcome language text isTemplate = .parsed tree issues) :
    ∃ found, regions text isTemplate = .ok found ∧
      CelEngine.roots language found = .ok tree.roots := by
  simp only [outcome] at h
  split at h
  case h_1 => cases h
  case h_2 found hfound =>
    split at h
    case h_1 => cases h
    case h_2 => cases h
    case h_3 roots hroots =>
      cases h
      exact ⟨found, hfound, hroots⟩

theorem regions_source (text : String) : regions text false = .ok [⟨text, 0⟩] := rfl

theorem regions_template (h : Template.regions text = .ok found) :
    regions text true = .ok found := h

theorem roots_singleton (language : Language) (region : Template.Region) :
    CelEngine.roots language [region] = (CelEngine.root language region).map ([·]) := by
  rw [CelEngine.roots]
  cases CelEngine.root language region with
  | _ => rfl

/-- A source document has a tree if it reads without an error, and the tree is
the expression that was read. -/
theorem outcome_source_parsed_iff {tree : CelTree} {issues : List Issue} :
    outcome language text false = .parsed tree issues ↔
      ∃ expr, language.read text = ⟨[], some expr⟩ ∧ tree = ⟨[⟨expr, 0⟩]⟩ ∧
        issues = rootIssues language (LineIndex.ofString text) ⟨expr, 0⟩ := by
  have hroots := roots_singleton language ⟨text, 0⟩
  cases hroot : CelEngine.root language ⟨text, 0⟩ with
  | error stop =>
      rw [hroot] at hroots
      have hnone : ¬ ∃ expr, language.read text = ⟨[], some expr⟩ ∧ tree = ⟨[⟨expr, 0⟩]⟩ ∧
          issues = rootIssues language (LineIndex.ofString text) ⟨expr, 0⟩ := by
        rintro ⟨expr, hread, _⟩
        cases hroot.symm.trans (root_ok_iff.mpr ⟨expr, hread, rfl⟩)
      cases stop with
      | syntaxError offset message =>
          simp [outcome_of_syntaxError (regions_source text) hroots, hnone]
      | failure detail =>
          simp [outcome_of_failure (regions_source text) hroots, hnone]
  | ok root =>
      rw [hroot] at hroots
      obtain ⟨expr, hread, rfl⟩ := root_ok_iff.mp hroot
      rw [outcome_of_roots (regions_source text) hroots]
      simp [show language.read text = _ from hread, eq_comm]

end Outcome

end CelWatch.CelEngine
