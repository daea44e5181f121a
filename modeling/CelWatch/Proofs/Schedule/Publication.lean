import CelWatch.Proofs.Schedule.Containment
import CelWatch.Proofs.Schedule.Move

/-!
The sink of the diagnostics is never behind the store. Only some moves hand
the diagnostics on; those that do not leave the diagnostics of every document
as they are, so the list that the sink got last is still the right one.
-/

namespace CelWatch

variable {Tree Metadata : Type}

/-- The list that an effect hands on. -/
def Effect.published? : Effect → Option (List Diagnostic)
  | .published diagnostics => some diagnostics
  | .parsed _ _ _ | .warned _ | .reported _ | .armed _ _ => none

/-- The list that was handed on last; the empty one before the first. -/
def lastPublished (effects : List Effect) : List Diagnostic :=
  (effects.filterMap Effect.published?).getLast?.getD []

/-- Effects among which no list is handed on. -/
def Silent (effects : List Effect) : Prop :=
  ∀ effect ∈ effects, effect.published? = none

theorem lastPublished_append_of_silent (before : List Effect) {after : List Effect}
    (h : Silent after) : lastPublished (before ++ after) = lastPublished before := by
  have hnone : after.filterMap Effect.published? = [] := List.filterMap_eq_nil_iff.mpr h
  rw [lastPublished, List.filterMap_append, hnone, List.append_nil, lastPublished]

theorem lastPublished_append_published (before : List Effect) (diagnostics : List Diagnostic) :
    lastPublished (before ++ [.published diagnostics]) = diagnostics := by
  simp [lastPublished, Effect.published?]

/-- Effects that a parse has: the engine works, and the log and the telemetry
are told. -/
def Effect.isReport : Effect → Bool
  | .parsed _ _ _ | .warned _ | .reported _ => true
  | .armed _ _ | .published _ => false

theorem Pipeline.run_reports (pipeline : Pipeline Tree Metadata) (snapshot : Snapshot)
    (kind : DocumentKind) :
    ∀ effect ∈ (pipeline.run snapshot kind).2, effect.isReport = true := by
  obtain ⟨issues, failure?, hends⟩ := pipeline.exists_ends snapshot kind
  rw [hends.run_eq.2]
  cases failure? with
  | none => simp [Effect.isReport]
  | some detail => simp [failureEffects, Effect.isReport]

theorem Pipeline.run_silent (pipeline : Pipeline Tree Metadata) (snapshot : Snapshot)
    (kind : DocumentKind) : Silent (pipeline.run snapshot kind).2 := by
  intro effect member
  have hreport := pipeline.run_reports snapshot kind effect member
  cases effect with
  | published diagnostics => cases hreport
  | _ => rfl

namespace Scheduler

variable {setup : Setup Tree Metadata} {scheduler next : Scheduler Tree Metadata}
  {event : Event} {reply : Reply Tree Metadata} {fresh : List Effect}

/-- A new snapshot brings no diagnostics and takes none away. -/
theorem received_diagnostics (scheduler : Scheduler Tree Metadata) (snapshot : Snapshot) :
    (scheduler.received snapshot).diagnostics =
      Store.diagnosticsOf scheduler.store snapshot.uri := by
  unfold received Store.diagnosticsOf
  cases scheduler.store.get? snapshot.uri with
  | none => rfl
  | some context => rfl

/-- Every list that is handed on is that of the store. -/
theorem Move.published_eq (h : Move setup scheduler event next reply fresh)
    {diagnostics : List Diagnostic} (hpublished : .published diagnostics ∈ fresh) :
    diagnostics = Store.diagnostics next.store := by
  have hreport : ∀ snapshot kind, .published diagnostics ∉ (setup.pipeline.run snapshot kind).2 :=
    fun snapshot kind hmem => nomatch setup.pipeline.run_reports snapshot kind _ hmem
  have hkeep : ∀ uri context kind,
      .published diagnostics ∈ scheduler.keepEffects setup uri context kind →
        diagnostics = Store.diagnostics (scheduler.keep setup uri context kind).store := by
    intro uri context kind hmem
    rcases List.mem_append.mp hmem with hrun | hlast
    · exact absurd hrun (hreport _ _)
    · exact Effect.published.inj (List.mem_singleton.mp hlast)
  cases h with
  | edit _ => cases List.mem_singleton.mp hpublished
  | close => exact Effect.published.inj (List.mem_singleton.mp hpublished)
  | fire _ _ _ => exact hkeep _ _ _ hpublished
  | supersede _ _ _ _ => exact absurd hpublished (hreport _ _)
  | refresh _ _ => exact hkeep _ _ _ hpublished
  | _ => cases hpublished

/-- After a move the sink has the diagnostics of the store, if it had them
before. -/
theorem Move.lastPublished_eq (h : Move setup scheduler event next reply fresh)
    {effects : List Effect} (hlast : lastPublished effects = Store.diagnostics scheduler.store) :
    lastPublished (effects ++ fresh) = Store.diagnostics next.store := by
  cases h with
  | edit hkind =>
      rw [lastPublished_append_of_silent _ (by simp [Silent, Effect.published?]), hlast]
      exact (Store.diagnostics_insert_of_eq scheduler.store
        (scheduler.received_diagnostics _)).symm
  | close => exact lastPublished_append_published _ _
  | fire hpending hkind hstored =>
      rw [keepEffects, ← List.append_assoc]
      exact lastPublished_append_published _ _
  | supersede hkind hstored hparsed hversion =>
      rw [lastPublished_append_of_silent _ (setup.pipeline.run_silent _ _), hlast]
  | refresh hkind hstored =>
      rw [keepEffects, ← List.append_assoc]
      exact lastPublished_append_published _ _
  | _ => rw [List.append_nil, hlast]

theorem handleAll_lastPublished (setup : Setup Tree Metadata) (events : List Event) :
    lastPublished ((initial : Scheduler Tree Metadata).handleAll setup events).2.2 =
      Store.diagnostics (initial.handleAll setup events).1.store :=
  handleAll_induction setup initial events
    (P := fun _ scheduler effects => lastPublished effects = Store.diagnostics scheduler.store)
    rfl fun _ hlast move => move.lastPublished_eq hlast

/-- After every run the list that was handed on last consists of the lists of
all tracked documents, one after the other in some order of the documents,
each whole and in its own order. The last event need not have published. -/
theorem sink_up_to_date (setup : Setup Tree Metadata) (events : List Event) :
    let (scheduler, _, effects) :=
      (initial : Scheduler Tree Metadata).handleAll setup events
    ∃ documents : List Uri, documents.Nodup ∧
      (∀ uri, uri ∈ documents ↔ (scheduler.store.get? uri).isSome) ∧
      lastPublished effects = documents.flatMap fun uri =>
        ((scheduler.store.get? uri).map Context.diagnostics).getD [] := by
  let scheduler := ((initial : Scheduler Tree Metadata).handleAll setup events).1
  refine ⟨scheduler.store.keys, scheduler.store.nodup, scheduler.store.mem_keys_iff, ?_⟩
  rw [handleAll_lastPublished, Store.diagnostics_eq_flatMap]
  rfl

end Scheduler

end CelWatch
