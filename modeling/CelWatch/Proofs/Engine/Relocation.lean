import CelWatch.Proofs.Engine.Reading
import CelWatch.Proofs.Template.Interpolation
import CelWatch.Proofs.Text.Line

/-!
A template is its expressions and nothing else: what the engine makes of it is
what it makes of each region alone, moved to where the region stands. The first
region that has no tree on its own decides that the template has none. This
needs a language that keeps to the text it is given.
-/

namespace CelWatch

open Text

/-- What a language reports about a text lies in the text, and it reads an
expression where it reports no error. -/
structure Language.Locates (language : Language) (text : String) : Prop where
  error : ∀ error ∈ (language.read text).errors, error.offset ≤ byteLength text.toList
  finding : ∀ expr ∈ (language.read text).expr, ∀ finding ∈ language.check expr,
    finding.span.start ≤ finding.span.stop ∧ finding.span.stop ≤ byteLength text.toList
  expr : (language.read text).errors = [] → (language.read text).expr.isSome

/-- An issue of a text whose first character stands at `origin`. -/
def Issue.relocate (issue : Issue) (origin : Position) : Issue :=
  { issue with
    start := issue.start.relocate origin
    stop := issue.stop.map (·.relocate origin) }

namespace CelEngine

section Region

variable {language : Language} {text : String} {found : List Template.Region}
  {region : Template.Region}

/-- Where a region starts in its template. -/
def origin (text : String) (region : Template.Region) : Position :=
  (LineIndex.ofString text).position region.offset

theorem position_in_region (hregions : Template.regions text = .ok found) (member : region ∈ found)
    {offset : Nat} (h : offset ≤ byteLength region.source.toList) :
    (LineIndex.ofString text).position (region.offset + offset) =
      ((LineIndex.ofString region.source).position offset).relocate (origin text region) := by
  obtain ⟨before, rest, htext, hbefore, _⟩ := Template.body_of_mem_regions hregions member
  have hwithin := LineIndex.position_within before region.source.toList ('\x7d' :: rest) h
  rw [← htext, hbefore] at hwithin
  exact hwithin

/-- In a template of this size 32 bits hold a position in a region, as it is seen
from the start of the region. -/
theorem relocate_fits (hregions : Template.regions text = .ok found) (member : region ∈ found)
    (hsize : byteLength text.toList < 2 ^ 32 - 1) {offset : Nat}
    (h : offset ≤ byteLength region.source.toList) :
    let position := ((LineIndex.ofString region.source).position offset).relocate (origin text region)
    position.line < 2 ^ 32 ∧ position.column < 2 ^ 32 := by
  rw [← position_in_region hregions member h]
  exact LineIndex.position_fits hsize _

theorem issue_in_region (hregions : Template.regions text = .ok found) (member : region ∈ found)
    {finding : Finding} (hordered : finding.span.start ≤ finding.span.stop)
    (hstop : finding.span.stop ≤ byteLength region.source.toList) :
    issue (LineIndex.ofString text) region.offset finding =
      (issue (LineIndex.ofString region.source) 0 finding).relocate (origin text region) := by
  have hstart := position_in_region hregions member (Nat.le_trans hordered hstop)
  have hend := position_in_region hregions member hstop
  simp [issue, LineIndex.span, ByteSpan.shift, Issue.relocate, hstart, hend]

theorem rootIssues_in_region (hregions : Template.regions text = .ok found)
    (member : region ∈ found) {expr : Cel.Expr}
    (hlocates : ∀ finding ∈ language.check expr, finding.span.start ≤ finding.span.stop ∧
      finding.span.stop ≤ byteLength region.source.toList) :
    rootIssues language (LineIndex.ofString text) ⟨expr, region.offset⟩ =
      (rootIssues language (LineIndex.ofString region.source) ⟨expr, 0⟩).map
        (·.relocate (origin text region)) := by
  simp only [rootIssues, List.map_map]
  refine List.map_congr_left fun finding hfinding => ?_
  obtain ⟨hordered, hstop⟩ := hlocates finding hfinding
  exact issue_in_region hregions member hordered hstop

end Region

/-- What the engine makes of a region alone. -/
def alone (language : Language) (region : Template.Region) : Outcome CelTree :=
  outcome language region.source false

section Alone

variable {language : Language} {text : String} {found : List Template.Region}
  {region : Template.Region}

/-- A region that has a tree alone has the same root in its template, and its
issues stand where the region stands. -/
theorem root_of_alone (hregions : Template.regions text = .ok found) (member : region ∈ found)
    (hlocates : language.Locates region.source) {tree : CelTree} {issues : List Issue}
    (h : alone language region = .parsed tree issues) :
    ∃ root, CelEngine.root language region = .ok root ∧
      (tree = ⟨[⟨root.expr, 0⟩]⟩ ∧ root.offset = region.offset) ∧
      issues.map (·.relocate (origin text region)) =
        rootIssues language (LineIndex.ofString text) root := by
  obtain ⟨expr, hread, htree, rfl⟩ := outcome_source_parsed_iff.mp h
  have hfindings := hlocates.finding expr (by rw [hread]; rfl)
  exact ⟨⟨expr, region.offset⟩, root_ok_iff.mpr ⟨expr, hread, rfl⟩, ⟨htree, rfl⟩,
    (rootIssues_in_region hregions member hfindings).symm⟩

theorem alone_of_root {root : CelRoot} (h : CelEngine.root language region = .ok root) :
    ∃ tree issues, alone language region = .parsed tree issues := by
  obtain ⟨expr, hread, _⟩ := root_ok_iff.mp h
  exact ⟨_, _, outcome_source_parsed_iff.mpr ⟨expr, hread, rfl, rfl⟩⟩

/-- What stops the engine at a region stops it at the same place when the region
stands alone. -/
theorem alone_of_stop (hregions : Template.regions text = .ok found) (member : region ∈ found)
    (hlocates : language.Locates region.source) {stop : Stop}
    (h : CelEngine.root language region = .error stop) :
    ∃ offset place message, stop = .syntaxError offset message ∧
      alone language region = .syntaxError place message ∧
      (LineIndex.ofString text).position offset = place.relocate (origin text region) := by
  obtain ⟨error, herror, rfl, hsource⟩ := root_error hlocates.expr h
  have hroots : CelEngine.roots language [⟨region.source, 0⟩] =
      .error (.syntaxError (0 + error.offset) error.message) := by
    rw [roots_singleton, hsource]
    rfl
  rw [Nat.zero_add] at hroots
  exact ⟨_, _, _, rfl, outcome_of_syntaxError (regions_source _) hroots,
    position_in_region hregions member (hlocates.error error herror)⟩

end Alone

/-- A template has the issues of its regions one after the other and a root for
each of them, with the expression that the region has alone. If a region has no
tree alone, the first of these says what the template has in its place. All of
it stands where it stands in the region, seen from the start of the region. The
numbers of these positions have no bound; `relocate_fits` says when 32 bits hold
them. -/
theorem template_relocates (language : Language) {text : String} {found : List Template.Region}
    (hregions : Template.regions text = .ok found)
    (hlocates : ∀ region ∈ found, language.Locates region.source) :
    (∀ (tree : Template.Region → CelTree) (issues : Template.Region → List Issue),
      (∀ region ∈ found, alone language region = .parsed (tree region) (issues region)) →
        ∃ roots,
          outcome language text true = .parsed ⟨roots⟩
            (found.flatMap fun region => (issues region).map (·.relocate (origin text region))) ∧
          List.Forall₂ (fun region root => tree region = ⟨[⟨root.expr, 0⟩]⟩ ∧
            root.offset = region.offset) found roots) ∧
    (¬ (∀ region ∈ found, ∃ tree issues, alone language region = .parsed tree issues) →
      ∃ before region after place message, found = before ++ region :: after ∧
        (∀ earlier ∈ before, ∃ tree issues, alone language earlier = .parsed tree issues) ∧
        alone language region = .syntaxError place message ∧
        outcome language text true =
          .syntaxError (place.relocate (origin text region)) message) := by
  have hfound := regions_template hregions
  constructor
  · intro tree issues halone
    obtain ⟨roots, hroots, hall⟩ := exists_roots fun region member =>
      root_of_alone hregions member (hlocates region member) (halone region member)
    have hissues : found.map (fun region => (issues region).map (·.relocate (origin text region))) =
        roots.map (rootIssues language (LineIndex.ofString text)) := by
      rw [← List.forall₂_eq_eq_eq, List.forall₂_map_left_iff, List.forall₂_map_right_iff]
      exact hall.imp fun _ _ hroot => hroot.2
    refine ⟨roots, ?_, hall.imp fun _ _ hroot => hroot.1⟩
    rw [outcome_of_roots hfound hroots, List.flatMap_def, List.flatMap_def, hissues]
  · intro hnone
    cases hroots : CelEngine.roots language found with
    | ok roots =>
        refine absurd ?_ hnone
        intro region member
        obtain ⟨root, hroot⟩ := root_ok_of_roots_ok hroots region member
        exact alone_of_root hroot
    | error stop =>
        obtain ⟨before, region, after, rfl, hbefore, hstop⟩ := roots_error hroots
        have member : region ∈ before ++ region :: after := by simp
        obtain ⟨offset, place, message, rfl, halone, hplace⟩ :=
          alone_of_stop hregions member (hlocates region member) hstop
        refine ⟨before, region, after, place, message, rfl, ?_, halone, ?_⟩
        · intro earlier hearlier
          obtain ⟨root, hroot⟩ := hbefore earlier hearlier
          exact alone_of_root hroot
        · rw [outcome_of_syntaxError hfound hroots, hplace]

/-- Two expressions on a line behind a wide character; the condition of the
second is no truth value. -/
def faultBehind : String := "\né$\x7b1\x7d $\x7b0?1:2\x7d"

theorem faultBehind_regions :
    Template.regions faultBehind = .ok [⟨"1", 5⟩, ⟨"0?1:2", 10⟩] := by
  have hbytes : Template.bytesOf faultBehind =
      [0x0A, 0xC3, 0xA9, 0x24, 0x7B, 0x31, 0x7D, 0x20, 0x24, 0x7B, 0x30, 0x3F, 0x31, 0x3A, 0x32,
        0x7D] := by
    decide +kernel
  have hspans : Template.bodySpans faultBehind = .ok [⟨5, 6⟩, ⟨10, 15⟩] := by
    simp [Template.bodySpans, hbytes, Template.spansFrom, Template.closing?, Template.isQuote,
      Template.dollar, Template.openBrace, Template.closeBrace, Template.singleQuote,
      Template.doubleQuote]
  have hfirst : slice faultBehind.toList ⟨5, 6⟩ = "1" := by decide +kernel
  have hsecond : slice faultBehind.toList ⟨10, 15⟩ = "0?1:2" := by decide +kernel
  simp [Template.regions, hspans, Except.map, hfirst, hsecond]

theorem faultBehind_check :
    (Language.cel .full).check
        (.conditional ⟨0, 5⟩ (.int ⟨0, 1⟩ 0) (.int ⟨2, 3⟩ 1) (.int ⟨4, 5⟩ 2)) =
      [⟨⟨0, 1⟩, .typeMismatch, "expected type 'bool' but found 'int'"⟩] := by
  have htakes : Ty.takes false .bool .int = false := by simp [Ty.takes]
  have hissues : conditionIssues ⟨0, 1⟩ .int = [⟨⟨0, 1⟩, .mismatch .bool .int⟩] := by
    rw [conditionIssues, htakes]
    rfl
  change (conditionIssues ⟨0, 1⟩ .int).map _ = _
  rw [hissues]
  rfl

theorem template_relocates_fault_behind :
    let found : List Template.Region := [⟨"1", 5⟩, ⟨"0?1:2", 10⟩]
    Template.regions faultBehind = .ok found ∧
      (∀ region ∈ found, (Language.cel .full).Locates region.source) ∧
      ∃ roots, roots.map (·.offset) = [5, 10] ∧
        outcome Environment.full faultBehind true = .parsed ⟨roots⟩
          [⟨⟨2, 9⟩, some ⟨2, 10⟩, .error, some "type-mismatch",
            "expected type 'bool' but found 'int'"⟩] := by
  intro found
  let expr (region : Template.Region) : Cel.Expr :=
    if region.offset = 5 then .int ⟨0, 1⟩ 1
    else .conditional ⟨0, 5⟩ (.int ⟨0, 1⟩ 0) (.int ⟨2, 3⟩ 1) (.int ⟨4, 5⟩ 2)
  let findings (region : Template.Region) : List Finding :=
    if region.offset = 5 then []
    else [⟨⟨0, 1⟩, .typeMismatch, "expected type 'bool' but found 'int'"⟩]
  have hread : ∀ region ∈ found,
      (Language.cel .full).read region.source = ⟨[], some (expr region)⟩ ∧
        (Language.cel .full).check (expr region) = findings region := by
    intro region member
    simp only [found, List.mem_cons, List.not_mem_nil, or_false] at member
    rcases member with rfl | rfl
    · exact ⟨rfl, rfl⟩
    · exact ⟨rfl, faultBehind_check⟩
  have hwithin : ∀ region ∈ found, ∀ finding ∈ findings region,
      finding.span.start ≤ finding.span.stop ∧
        finding.span.stop ≤ byteLength region.source.toList := by
    decide +kernel
  have hlocates : ∀ region ∈ found, (Language.cel .full).Locates region.source := by
    intro region member
    obtain ⟨hexpr, hcheck⟩ := hread region member
    refine ⟨by simp [hexpr], ?_, by simp [hexpr]⟩
    intro other hother
    rw [hexpr] at hother
    obtain rfl := Option.some.inj hother
    rw [hcheck]
    exact hwithin region member
  obtain ⟨roots, houtcome, hroots⟩ := (template_relocates (Language.cel .full) faultBehind_regions
    hlocates).1 (fun region => ⟨[⟨expr region, 0⟩]⟩)
      (fun region => (findings region).map (issue (LineIndex.ofString region.source) 0))
      fun region member => outcome_source_parsed_iff.mpr
        ⟨_, (hread region member).1, rfl, by rw [rootIssues, (hread region member).2]⟩
  have hoffsets : roots.map (·.offset) = found.map (·.offset) := by
    rw [← List.forall₂_eq_eq_eq, List.forall₂_map_left_iff, List.forall₂_map_right_iff]
    exact hroots.flip.imp fun _ _ hroot => hroot.2
  refine ⟨faultBehind_regions, hlocates, roots, hoffsets, houtcome.trans ?_⟩
  congr 1
  with_unfolding_all rfl

end CelEngine

end CelWatch
