import CelWatch.Proofs.Cel.Parts
import CelWatch.Proofs.Engine.Reading
import CelWatch.Proofs.Template.Composition

/-!
An expression as the only one of a template. The template has it back where the
text is a body, for whatever language it is written in. In CEL the braces of an
expression nest, so only its special parts can keep it from being a body. Some
do: a quote in a triple-quoted literal, a backslash at the end of a raw one or a
brace in a comment lead the scan of the template astray.
-/

namespace CelWatch

open Text

namespace CelEngine

/-- Whether a template with the text in it has the text for its only region and
the expression of the text, where the region starts, for its only root. -/
def Embeds (language : Language) (text : String) : Prop :=
  Template.regions (Template.embed text) = .ok [⟨text, 2⟩] ∧
    ∃ expr issues moved, outcome language text false = .parsed ⟨[⟨expr, 0⟩]⟩ issues ∧
      outcome language (Template.embed text) true = .parsed ⟨[⟨expr, 2⟩]⟩ moved

theorem embeds_iff {language : Language} {text : String} {tree : CelTree} {issues : List Issue}
    (h : outcome language text false = .parsed tree issues) :
    Embeds language text ↔ Template.Body text.toList := by
  obtain ⟨expr, hread, rfl, _⟩ := outcome_source_parsed_iff.mp h
  rw [← Template.regions_embed_iff]
  constructor
  · exact And.left
  · intro hregions
    have hroot : CelEngine.root language ⟨text, 2⟩ = .ok ⟨expr, 2⟩ :=
      root_ok_iff.mpr ⟨expr, hread, rfl⟩
    have hroots : CelEngine.roots language [⟨text, 2⟩] = .ok [⟨expr, 2⟩] := by
      rw [roots_singleton, hroot]
      rfl
    exact ⟨hregions, expr, issues, _, h, outcome_of_roots (regions_template hregions) hroots⟩

/-- A text that CEL accepts can be embedded exactly if it is a body. It is one if
its comments, its names between backquotes and its raw and triple-quoted literals
are bodies, so without any of these it always can. -/
theorem accepted_embeds (environment : Environment) {text : String} {tree : CelTree}
    {issues : List Issue} (h : outcome environment text false = .parsed tree issues) :
    (Embeds environment text ↔ Template.Body text.toList) ∧
      ((∀ part ∈ Cel.parts text.toList, Cel.isSpecial part = true → Template.Body part) →
        Embeds environment text) := by
  refine ⟨embeds_iff h, fun hspecial => (embeds_iff h).mpr ?_⟩
  obtain ⟨expr, hread, _⟩ := outcome_source_parsed_iff.mp h
  have hparse : Cel.parse text = .ok expr := by
    cases hresult : Cel.parse text with
    | error error => simp [Language.cel, hresult] at hread
    | ok found => simpa [Language.cel, hresult] using hread
  exact Cel.body_of_parse hparse hspecial

/-- A brace in a plain literal, inside the braces of a map. -/
def braceInKey : String := "\x7b'\x7d':1\x7d"

theorem accepted_embeds_brace_in_key :
    (∃ tree issues, outcome Environment.full braceInKey false = .parsed tree issues) ∧
      (∀ part ∈ Cel.parts braceInKey.toList, Cel.isSpecial part = true → Template.Body part) ∧
      Embeds Environment.full braceInKey := by
  have hread : (Language.cel .full).read braceInKey =
      ⟨[], some (.map ⟨0, 7⟩ [.mk false (.string ⟨1, 4⟩ "\x7d") (.int ⟨5, 6⟩ 1)])⟩ := rfl
  have hparsed := outcome_source_parsed_iff.mpr ⟨_, hread, rfl, rfl⟩
  have hplain : ∀ part ∈ Cel.parts braceInKey.toList, Cel.isSpecial part = false := by decide
  have hspecial : ∀ part ∈ Cel.parts braceInKey.toList,
      Cel.isSpecial part = true → Template.Body part := by
    intro part member hpart
    rw [hplain part member] at hpart
    cases hpart
  exact ⟨⟨_, _, hparsed⟩, hspecial, (accepted_embeds .full hparsed).2 hspecial⟩

/-- A quote and a brace in a triple-quoted literal. -/
def quoteInTriple : String := "\"\"\"a\"\x7d\"\"\""

theorem quoteInTriple_regions :
    Template.regions (Template.embed quoteInTriple) = .ok [⟨"\"\"\"a\"", 2⟩] := by
  have hbytes : Template.bytesOf (Template.embed quoteInTriple) =
      [0x24, 0x7B, 0x22, 0x22, 0x22, 0x61, 0x22, 0x7D, 0x22, 0x22, 0x22, 0x7D] := by
    decide +kernel
  have hspans : Template.bodySpans (Template.embed quoteInTriple) = .ok [⟨2, 7⟩] := by
    simp [Template.bodySpans, hbytes, Template.spansFrom, Template.closing?, Template.isQuote,
      Template.dollar, Template.openBrace, Template.closeBrace, Template.singleQuote,
      Template.doubleQuote, Template.backslash]
  have hslice : slice (Template.embed quoteInTriple).toList ⟨2, 7⟩ = "\"\"\"a\"" := by
    decide +kernel
  simp [Template.regions, hspans, Except.map, hslice]

/-- The scan takes the brace in the literal for the end of the expression. -/
theorem quote_in_triple_not_embedded :
    (∃ tree issues, outcome Environment.full quoteInTriple false = .parsed tree issues) ∧
      outcome Environment.full (Template.embed quoteInTriple) true =
        .syntaxError ⟨1, 3⟩ "unexpected character '\"\"\"'" ∧
      ¬ Embeds Environment.full quoteInTriple := by
  have hread : (Language.cel .full).read quoteInTriple =
      ⟨[], some (.string ⟨0, 9⟩ "a\"\x7d")⟩ := rfl
  have hparsed := outcome_source_parsed_iff.mpr ⟨_, hread, rfl, rfl⟩
  have hroots : CelEngine.roots Environment.full [⟨"\"\"\"a\"", 2⟩] =
      .error (.syntaxError 2 "unexpected character '\"\"\"'") := rfl
  have hplace : (LineIndex.ofString (Template.embed quoteInTriple)).position 2 = ⟨1, 3⟩ := by
    with_unfolding_all rfl
  have houtcome := outcome_of_syntaxError (regions_template quoteInTriple_regions) hroots
  rw [hplace] at houtcome
  refine ⟨⟨_, _, hparsed⟩, houtcome, ?_⟩
  rintro ⟨_, _, _, _, _, hembedded⟩
  rw [houtcome] at hembedded
  cases hembedded

end CelEngine

end CelWatch
