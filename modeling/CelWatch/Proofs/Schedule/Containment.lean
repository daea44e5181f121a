import Mathlib.Data.List.Forall2
import CelWatch.Schedule.Pipeline

/-!
How a parse ends. Whatever the engine and the extractor do, there is a result,
and every failure is told in it, in the log and in the telemetry, once and in
the same words. A tree is kept only together with its metadata, so a failure of
the extractor costs the tree and not the issues.
-/

namespace CelWatch

variable {Tree Metadata : Type}

/-- The warning that an effect logs. -/
def Effect.warning? : Effect → Option Warning
  | .warned warning => some warning
  | .parsed _ _ _ | .reported _ | .armed _ _ | .published _ => none

/-- The event that an effect reports. -/
def Effect.report? : Effect → Option TelemetryEvent
  | .reported event => some event
  | .parsed _ _ _ | .warned _ | .armed _ _ | .published _ => none

/-- The event tells of the failed parse of a snapshot. -/
structure TelemetryEvent.TellsOf (event : TelemetryEvent) (snapshot : Snapshot) (detail : String) :
    Prop where
  name : event.name = "parse_failure"
  uri : event.payload.get? "uri" = some (.string snapshot.uri.text)
  file : event.payload.get? "file" = some (.string snapshot.path.display)
  version : event.payload.get? "version" = some (.ofInt snapshot.version)
  detail : event.payload.get? "detail" = some (.string detail)

namespace Pipeline

/-- What the engine makes of a snapshot. -/
def answer (pipeline : Pipeline Tree Metadata) (snapshot : Snapshot) (kind : DocumentKind) :
    Except Breakdown (Outcome Tree) :=
  pipeline.engine.parse snapshot.text snapshot.path kind.isTemplate

/-- How a parse ends: with which issues of the text, and with which failure to
tell, if there is one. -/
inductive Ends (pipeline : Pipeline Tree Metadata) (snapshot : Snapshot) (kind : DocumentKind) :
    List Issue → Option String → Prop
  | complete {tree : Tree} {issues : List Issue} {metadata : Metadata}
      (h : pipeline.answer snapshot kind = .ok (.parsed tree issues))
      (hextract : pipeline.extractor.extract tree = .ok metadata) :
      Ends pipeline snapshot kind issues none
  | withoutMetadata {tree : Tree} {issues : List Issue} {breakdown : Breakdown}
      (h : pipeline.answer snapshot kind = .ok (.parsed tree issues))
      (hextract : pipeline.extractor.extract tree = .error breakdown) :
      Ends pipeline snapshot kind issues
        (some ("metadata extraction panicked: " ++ breakdown.message))
  | rejected {place : Position} {message : String}
      (h : pipeline.answer snapshot kind = .ok (.syntaxError place message)) :
      Ends pipeline snapshot kind [⟨place, none, .error, none, message⟩] none
  | failed {detail : String} (h : pipeline.answer snapshot kind = .ok (.failure detail)) :
      Ends pipeline snapshot kind [] (some detail)
  | brokenDown {breakdown : Breakdown} (h : pipeline.answer snapshot kind = .error breakdown) :
      Ends pipeline snapshot kind [] (some ("parser panicked: " ++ breakdown.message))

/-- The error that stands for a failure, at the start of the document. -/
def failureError (detail : String) : Issue :=
  ⟨⟨1, 1⟩, none, .error, none, "internal error while parsing: " ++ detail⟩

section Run

variable {pipeline : Pipeline Tree Metadata} {snapshot : Snapshot} {kind : DocumentKind}
  {issues : List Issue} {failure? : Option String}

theorem exists_ends (pipeline : Pipeline Tree Metadata) (snapshot : Snapshot)
    (kind : DocumentKind) : ∃ issues failure?, pipeline.Ends snapshot kind issues failure? := by
  cases hanswer : pipeline.answer snapshot kind with
  | error breakdown => exact ⟨_, _, .brokenDown hanswer⟩
  | ok outcome =>
      cases outcome with
      | syntaxError place message => exact ⟨_, _, .rejected hanswer⟩
      | failure detail => exact ⟨_, _, .failed hanswer⟩
      | parsed tree issues =>
          cases hextract : pipeline.extractor.extract tree with
          | ok metadata => exact ⟨_, _, .complete hanswer hextract⟩
          | error breakdown => exact ⟨_, _, .withoutMetadata hanswer hextract⟩

theorem outcome_of_ok {outcome : Outcome Tree} (h : pipeline.answer snapshot kind = .ok outcome) :
    pipeline.outcome snapshot kind = outcome := by
  rw [answer] at h
  rw [Pipeline.outcome, h]

theorem outcome_of_error {breakdown : Breakdown}
    (h : pipeline.answer snapshot kind = .error breakdown) :
    pipeline.outcome snapshot kind = .failure ("parser panicked: " ++ breakdown.message) := by
  rw [answer] at h
  rw [Pipeline.outcome, h]
  rfl

/-- The result has the issues, and behind them the error for the failure, which
is told to the log and the telemetry. -/
theorem Ends.run_eq (h : pipeline.Ends snapshot kind issues failure?) :
    (pipeline.run snapshot kind).1.diagnostics =
        pipeline.attach snapshot (issues ++ failure?.toList.map failureError) ∧
      (pipeline.run snapshot kind).2 =
        .parsed snapshot.text snapshot.path kind.isTemplate ::
          failure?.toList.flatMap (failureEffects snapshot) := by
  rw [run]
  cases h with
  | complete h hextract =>
      rw [outcome_of_ok h, conclude, hextract]
      simp
  | withoutMetadata h hextract =>
      rw [outcome_of_ok h, conclude, hextract]
      exact ⟨rfl, rfl⟩
  | rejected h =>
      rw [outcome_of_ok h]
      exact ⟨rfl, rfl⟩
  | failed h =>
      rw [outcome_of_ok h]
      exact ⟨rfl, rfl⟩
  | brokenDown h =>
      rw [outcome_of_error h]
      exact ⟨rfl, rfl⟩

theorem failureEffects_tell (snapshot : Snapshot) (detail : String) :
    (failureEffects snapshot detail).filterMap Effect.warning? =
        [.parseFailure snapshot.uri snapshot.version detail] ∧
      List.Forall₂ (fun event detail => event.TellsOf snapshot detail)
        ((failureEffects snapshot detail).filterMap Effect.report?) [detail] :=
  ⟨rfl, .cons ⟨rfl, rfl, rfl, rfl, rfl⟩ .nil⟩

/-- A failure is told once to the log and once to the telemetry. -/
theorem Ends.told (h : pipeline.Ends snapshot kind issues failure?) :
    (pipeline.run snapshot kind).2.filterMap Effect.warning? =
        failure?.toList.map (.parseFailure snapshot.uri snapshot.version) ∧
      List.Forall₂ (fun event detail => event.TellsOf snapshot detail)
        ((pipeline.run snapshot kind).2.filterMap Effect.report?) failure?.toList := by
  rw [h.run_eq.2]
  cases failure? with
  | none => exact ⟨rfl, .nil⟩
  | some detail => exact failureEffects_tell snapshot detail

theorem outcome_parsed_iff {tree : Tree} :
    pipeline.outcome snapshot kind = .parsed tree issues ↔
      pipeline.answer snapshot kind = .ok (.parsed tree issues) := by
  cases hanswer : pipeline.answer snapshot kind with
  | error breakdown => simp [outcome_of_error hanswer]
  | ok outcome => simp [outcome_of_ok hanswer]

theorem conclude_parsed_iff {outcome : Outcome Tree} {tree : Tree} {metadata : Metadata} :
    (pipeline.conclude snapshot outcome).1.tree = some tree ∧
        (pipeline.conclude snapshot outcome).1.metadata = some metadata ↔
      (∃ issues, outcome = .parsed tree issues) ∧
        pipeline.extractor.extract tree = .ok metadata := by
  cases outcome with
  | syntaxError place message => simp [conclude]
  | failure detail => simp [conclude, fail]
  | parsed found issues =>
      have hsame : (∃ others, Outcome.parsed found issues = .parsed tree others) ↔ found = tree := by
        simp
      rw [hsame]
      cases hextract : pipeline.extractor.extract found with
      | ok taken =>
          simp only [conclude, hextract, Option.some.injEq]
          apply and_congr_right
          rintro rfl
          rw [hextract, Except.ok.injEq]
      | error breakdown =>
          have hnone : (pipeline.conclude snapshot (.parsed found issues)).1.tree = none := by
            simp only [conclude, hextract, fail]
          rw [hnone]
          constructor
          · nofun
          · rintro ⟨rfl, hother⟩
            cases hextract.symm.trans hother

/-- A tree is kept exactly if the extractor gives metadata for it. -/
theorem run_parsed_iff {tree : Tree} {metadata : Metadata} :
    (pipeline.run snapshot kind).1.tree = some tree ∧
        (pipeline.run snapshot kind).1.metadata = some metadata ↔
      (∃ issues, pipeline.answer snapshot kind = .ok (.parsed tree issues)) ∧
        pipeline.extractor.extract tree = .ok metadata := by
  simp only [← outcome_parsed_iff]
  exact conclude_parsed_iff

theorem conclude_paired (pipeline : Pipeline Tree Metadata) (snapshot : Snapshot)
    (outcome : Outcome Tree) :
    (pipeline.conclude snapshot outcome).1.metadata.isSome =
      (pipeline.conclude snapshot outcome).1.tree.isSome := by
  cases outcome with
  | syntaxError place message => rfl
  | failure detail => rfl
  | parsed tree issues =>
      cases hextract : pipeline.extractor.extract tree with
      | ok metadata => simp only [conclude, hextract, Option.isSome_some]
      | error breakdown => simp only [conclude, hextract, fail, Option.isSome_none]

/-- There are metadata where there is a tree. -/
theorem run_paired (pipeline : Pipeline Tree Metadata) (snapshot : Snapshot) (kind : DocumentKind) :
    (pipeline.run snapshot kind).1.metadata.isSome = (pipeline.run snapshot kind).1.tree.isSome :=
  pipeline.conclude_paired snapshot (pipeline.outcome snapshot kind)

end Run

/-- Every parse ends, with whatever issues and failure. Tree and metadata are
both there if the engine gave the tree and the extractor the metadata, and
neither is otherwise. The diagnostics are those issues and then an error for the
failure, with the identity and the path of the document and the name of the
engine; and the log and the telemetry are told of the failure, once, with the
same detail, and of nothing else. -/
theorem run_contains_failures (pipeline : Pipeline Tree Metadata) (snapshot : Snapshot)
    (kind : DocumentKind) :
    let result := (pipeline.run snapshot kind).1
    let effects := (pipeline.run snapshot kind).2
    (∃ issues failure?, pipeline.Ends snapshot kind issues failure?) ∧
      (∀ issues failure?, pipeline.Ends snapshot kind issues failure? →
        result.diagnostics = (issues ++ failure?.toList.map failureError).map (fun issue =>
          ⟨snapshot.uri, snapshot.path, pipeline.engine.name, issue.start, issue.stop,
            issue.severity, issue.code, issue.message⟩) ∧
        effects.filterMap Effect.warning? =
          failure?.toList.map (.parseFailure snapshot.uri snapshot.version) ∧
        List.Forall₂ (fun event detail => event.TellsOf snapshot detail)
          (effects.filterMap Effect.report?) failure?.toList) ∧
      (∀ tree metadata, result.tree = some tree ∧ result.metadata = some metadata ↔
        (∃ issues, pipeline.answer snapshot kind = .ok (.parsed tree issues)) ∧
          pipeline.extractor.extract tree = .ok metadata) ∧
      result.metadata.isSome = result.tree.isSome ∧
      ∀ identity context,
        let stored := result.store identity context
        stored.tree.map Shared.value = result.tree ∧
          stored.metadata.map Shared.value = result.metadata := by
  intro result effects
  refine ⟨pipeline.exists_ends snapshot kind, ?_, fun _ _ => run_parsed_iff,
    pipeline.run_paired snapshot kind, ?_⟩
  · intro issues failure? h
    exact ⟨h.run_eq.1, h.told⟩
  · intro identity context stored
    simp [stored, ParseResult.store, Function.comp_def]

/-- An engine that finds an issue, and an extractor that breaks down without a
word. -/
def wordless : Pipeline Unit Unit where
  engine := ⟨"script", fun _ _ _ => .ok (.parsed () [⟨⟨1, 2⟩, none, .warning, none, "unused"⟩])⟩
  extractor := ⟨fun _ => .error ⟨none⟩⟩

theorem run_contains_failures_wordless :
    let snapshot := Snapshot.ofText ⟨"doc://a.cel"⟩ "a" 4
    let detail := "metadata extraction panicked: " ++ "unknown panic"
    let result := (wordless.run snapshot .source).1
    let effects := (wordless.run snapshot .source).2
    wordless.Ends snapshot .source [⟨⟨1, 2⟩, none, .warning, none, "unused"⟩] (some detail) ∧
      result.tree = none ∧ result.metadata = none ∧
      result.diagnostics.map (·.message) = ["unused", "internal error while parsing: " ++ detail] ∧
      effects.filterMap Effect.warning? = [.parseFailure snapshot.uri 4 detail] := by
  intro snapshot detail result effects
  have hextract : wordless.extractor.extract () = .error ⟨none⟩ := rfl
  have hends : wordless.Ends snapshot .source _ (some detail) := .withoutMetadata rfl hextract
  obtain ⟨_, htold, hparsed, hpaired, _⟩ := run_contains_failures wordless snapshot .source
  obtain ⟨hdiagnostics, hwarnings, _⟩ := htold _ _ hends
  have htree : result.tree = none := by
    rw [Option.eq_none_iff_forall_ne_some]
    intro tree hsome
    obtain ⟨metadata, hmetadata⟩ := Option.isSome_iff_exists.mp (hpaired.trans (by rw [hsome]; rfl))
    cases ((hparsed tree metadata).mp ⟨hsome, hmetadata⟩).2
  refine ⟨hends, htree, ?_, ?_, hwarnings⟩
  · rw [htree] at hpaired
    exact Option.isNone_iff_eq_none.mp (by simpa using hpaired)
  · exact congrArg (List.map (·.message)) hdiagnostics

end Pipeline

end CelWatch
