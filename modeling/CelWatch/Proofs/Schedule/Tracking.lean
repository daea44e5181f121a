import CelWatch.Proofs.Schedule.Generation

/-!
What a scheduler tracks, and what a tracked context can be. Contexts come to
the store in three ways: a snapshot without results, a context with a new
snapshot, and a context with the results of a parse. What holds of the first
and is kept by the other two holds of every context in every reachable store.
Nothing is asked of versions or of fires.
-/

namespace CelWatch

variable {Tree Metadata : Type}

/-- What holds of the context that is stored for a document. -/
structure Context.WellFormed (context : Context Tree Metadata) (setup : Setup Tree Metadata)
    (uri : Uri) : Prop where
  snapshot_uri : context.snapshot.uri = uri
  snapshot_path : context.snapshot.path = uri.derivedPath
  path_eq : context.path = uri.derivedPath
  metadata_iff : context.metadata.isSome ↔ context.tree.isSome
  unparsed : context.parsedVersion = none → context.tree = none ∧ context.diagnostics = []
  failed : context.parsedVersion.isSome → context.tree = none →
    ∃ diagnostic ∈ context.diagnostics, diagnostic.severity = .error
  attached : ∀ diagnostic ∈ context.diagnostics, diagnostic.uri = uri ∧
    diagnostic.path = uri.derivedPath ∧ diagnostic.source = setup.pipeline.engine.name

/-- The snapshot and the diagnostics are those of the document. -/
structure Context.OwnedBy (context : Context Tree Metadata) (uri : Uri) : Prop where
  snapshot_uri : context.snapshot.uri = uri
  diagnostics_uri : ∀ diagnostic ∈ context.diagnostics, diagnostic.uri = uri

/-- A parse attaches issues to its snapshot, and one of them is an error when
there is no tree. -/
theorem Pipeline.run_attach (pipeline : Pipeline Tree Metadata) (snapshot : Snapshot)
    (kind : DocumentKind) :
    ∃ issues, (pipeline.run snapshot kind).1.diagnostics = pipeline.attach snapshot issues ∧
      ((pipeline.run snapshot kind).1.tree = none → ∃ issue ∈ issues, issue.severity = .error) := by
  obtain ⟨issues, failure?, hends⟩ := pipeline.exists_ends snapshot kind
  refine ⟨_, hends.run_eq.1, fun hnone => ?_⟩
  cases hends with
  | complete h hextract =>
      have hsome := run_parsed_iff.mpr ⟨⟨issues, h⟩, hextract⟩
      cases hnone.symm.trans hsome.1
  | rejected _ => exact ⟨_, List.mem_singleton.mpr rfl, rfl⟩
  | withoutMetadata _ _ | failed _ | brokenDown _ =>
      exact ⟨_, List.mem_append_right _ (List.mem_singleton.mpr rfl), rfl⟩

theorem Pipeline.mem_attach {pipeline : Pipeline Tree Metadata} {snapshot : Snapshot}
    {issues : List Issue} {diagnostic : Diagnostic}
    (h : diagnostic ∈ pipeline.attach snapshot issues) :
    diagnostic.uri = snapshot.uri ∧ diagnostic.path = snapshot.path ∧
      diagnostic.source = pipeline.engine.name := by
  obtain ⟨issue, _, rfl⟩ := List.mem_map.mp h
  exact ⟨rfl, rfl, rfl⟩

/-- What the pipeline did for an event: the text that the engine was given, the
warning and the report. -/
def Handling.work (entry : Handling Tree Metadata) : List Effect :=
  entry.effects.filter Effect.isReport

namespace Context

variable {setup : Setup Tree Metadata} {context : Context Tree Metadata} {uri : Uri}

theorem wellFormed_unparsed (snapshot : Snapshot) :
    (unparsed snapshot : Context Tree Metadata).WellFormed setup snapshot.uri where
  snapshot_uri := rfl
  snapshot_path := snapshot.derived
  path_eq := snapshot.derived
  metadata_iff := Iff.rfl
  unparsed := fun _ => ⟨rfl, rfl⟩
  failed := fun hparsed => nomatch hparsed
  attached := fun _ member => nomatch member

theorem WellFormed.update {snapshot : Snapshot} (h : context.WellFormed setup snapshot.uri) :
    (context.update snapshot).WellFormed setup snapshot.uri where
  snapshot_uri := rfl
  snapshot_path := snapshot.derived
  path_eq := snapshot.derived
  metadata_iff := h.metadata_iff
  unparsed := h.unparsed
  failed := h.failed
  attached := h.attached

theorem WellFormed.parsed (h : context.WellFormed setup uri) (identity : Nat)
    (kind : DocumentKind) : (setup.parsed identity context kind).WellFormed setup uri := by
  obtain ⟨issues, hattach, herror⟩ := setup.pipeline.run_attach context.snapshot kind
  have hdiagnostics : (setup.parsed identity context kind).diagnostics =
      setup.pipeline.attach context.snapshot issues := hattach
  have hversion : (setup.parsed identity context kind).parsedVersion =
      some context.snapshot.version := rfl
  refine ⟨h.snapshot_uri, h.snapshot_path, h.path_eq, ?_, by simp [hversion], ?_, ?_⟩
  · simp [Setup.parsed, ParseResult.store, Pipeline.run_paired]
  · intro _ hnone
    have hresult : (setup.pipeline.run context.snapshot kind).1.tree = none := by
      simpa [Setup.parsed, ParseResult.store] using hnone
    obtain ⟨issue, member, hseverity⟩ := herror hresult
    rw [hdiagnostics]
    exact ⟨_, List.mem_map_of_mem member, hseverity⟩
  · intro diagnostic member
    rw [hdiagnostics] at member
    obtain ⟨huri, hpath, hsource⟩ := Pipeline.mem_attach member
    exact ⟨huri.trans h.snapshot_uri, hpath.trans h.snapshot_path, hsource⟩

theorem ownedBy_unparsed (snapshot : Snapshot) :
    (unparsed snapshot : Context Tree Metadata).OwnedBy snapshot.uri :=
  ⟨rfl, fun _ member => nomatch member⟩

theorem OwnedBy.update {snapshot : Snapshot} (h : context.OwnedBy snapshot.uri) :
    (context.update snapshot).OwnedBy snapshot.uri :=
  ⟨rfl, h.diagnostics_uri⟩

theorem OwnedBy.parsed (h : context.OwnedBy uri) (identity : Nat) (kind : DocumentKind) :
    (setup.parsed identity context kind).OwnedBy uri := by
  obtain ⟨issues, hattach, _⟩ := setup.pipeline.run_attach context.snapshot kind
  refine ⟨h.snapshot_uri, ?_⟩
  intro diagnostic member
  have hmem : diagnostic ∈ setup.pipeline.attach context.snapshot issues := hattach ▸ member
  exact (Pipeline.mem_attach hmem).1.trans h.snapshot_uri

end Context

namespace Scheduler

variable {setup : Setup Tree Metadata} {scheduler next : Scheduler Tree Metadata}
  {event : Event} {reply : Reply Tree Metadata} {effects : List Effect}

/-- Where a context in the store comes from. -/
theorem Move.stored_cases (h : Move setup scheduler event next reply effects) {uri : Uri}
    {context : Context Tree Metadata} (hstored : next.store.get? uri = some context) :
    scheduler.store.get? uri = some context ∨
      (∃ snapshot, event = .edit snapshot ∧ snapshot.uri = uri ∧
        context = scheduler.received snapshot) ∨
      ∃ source kind, context = setup.parsed scheduler.parses source kind ∧
        next.parses = scheduler.parses + 1 ∧
        (scheduler.store.get? uri = some source ∨
          ∃ snapshot, event = .parseNow snapshot ∧ snapshot.uri = uri ∧
            source = .unparsed snapshot) := by
  cases h with
  | edit _ =>
      rcases Registry.get?_insert_eq_some hstored with ⟨huri, hnew⟩ | ⟨_, hbefore⟩
      · exact .inr (.inl ⟨_, rfl, huri.symm, hnew⟩)
      · exact .inl hbefore
  | close => exact .inl (Registry.get?_erase_eq_some hstored).2
  | fire _ _ hsource =>
      rcases Registry.get?_insert_eq_some hstored with ⟨rfl, hnew⟩ | ⟨_, hbefore⟩
      · exact .inr (.inr ⟨_, _, hnew, rfl, .inl hsource⟩)
      · exact .inl hbefore
  | refresh _ _ =>
      rcases Registry.get?_insert_eq_some hstored with ⟨huri, hnew⟩ | ⟨_, hbefore⟩
      · exact .inr (.inr ⟨_, _, hnew, rfl, .inr ⟨_, rfl, huri.symm, rfl⟩⟩)
      · exact .inl hbefore
  | _ => exact .inl hstored

/-- What holds of the contexts of new documents, and is kept when a snapshot
comes and when a parse is stored, holds of every stored context. -/
theorem handleAll_stored {P : Uri → Context Tree Metadata → Prop} (setup : Setup Tree Metadata)
    (events : List Event)
    (hnew : ∀ event ∈ events, ∀ snapshot ∈ event.request?, P snapshot.uri (.unparsed snapshot))
    (hupdate : ∀ event ∈ events, ∀ snapshot ∈ event.request?, ∀ context,
      P snapshot.uri context → P snapshot.uri (context.update snapshot))
    (hparse : ∀ uri context identity kind, P uri context →
      P uri (setup.parsed identity context kind)) :
    ∀ uri context, (initial.handleAll setup events).1.store.get? uri = some context →
      P uri context := by
  apply handleAll_induction setup initial events
    (P := fun _ scheduler _ =>
      ∀ uri context, scheduler.store.get? uri = some context → P uri context)
  · intro uri context hstored
    cases hstored
  · intro done event rest next reply fresh hall h move uri context hstored
    have hevent : event ∈ events := by simp [← hall]
    rcases move.stored_cases hstored with hbefore | ⟨snapshot, rfl, rfl, rfl⟩ |
      ⟨source, kind, rfl, _, hbefore | ⟨snapshot, rfl, rfl, rfl⟩⟩
    · exact h uri context hbefore
    · unfold received
      split
      · next context hbefore => exact hupdate _ hevent snapshot rfl context (h _ _ hbefore)
      · exact hnew _ hevent snapshot rfl
    · exact hparse _ _ _ _ (h _ _ hbefore)
    · exact hparse _ _ _ _ (hnew _ hevent snapshot rfl)

theorem handleAll_ownedBy (setup : Setup Tree Metadata) (events : List Event) :
    ∀ uri context, (initial.handleAll setup events).1.store.get? uri = some context →
      context.OwnedBy uri :=
  handleAll_stored setup events (fun _ _ snapshot _ => Context.ownedBy_unparsed snapshot)
    (fun _ _ _ _ _ h => h.update) fun _ _ identity kind h => h.parsed identity kind

/-- The list that was handed on last has for a document what is stored of it. -/
theorem lastPublished_filter (setup : Setup Tree Metadata) (events : List Event) (uri : Uri) :
    (lastPublished ((initial : Scheduler Tree Metadata).handleAll setup events).2.2).filter
        (·.uri = uri) =
      Store.diagnosticsOf (initial.handleAll setup events).1.store uri := by
  rw [handleAll_lastPublished]
  exact Store.filter_diagnostics
    (fun key context hstored => (handleAll_ownedBy setup events key context hstored).diagnostics_uri)
    uri

/-- The snapshots in the store were submitted. -/
theorem handleAll_submitted (setup : Setup Tree Metadata) (events : List Event) :
    ∀ uri context, (initial.handleAll setup events).1.store.get? uri = some context →
      ∃ event ∈ events, event.request? = some context.snapshot :=
  handleAll_stored setup events (fun event member _ hrequest => ⟨event, member, hrequest⟩)
    (fun event member _ hrequest _ _ => ⟨event, member, hrequest⟩) fun _ _ _ _ h => h

/-- A move parses nothing, or one snapshot: the one that is asked for, or the
one that is stored. -/
theorem Move.work_cases (h : Move setup scheduler event next reply effects) :
    effects.filter Effect.isReport = [] ∧ next.parses = scheduler.parses ∨
      ∃ snapshot kind, effects.filter Effect.isReport = (setup.pipeline.run snapshot kind).2 ∧
        next.parses = scheduler.parses + 1 ∧
        setup.config.allowList.classify event.uri = some kind ∧
        (event = .parseNow snapshot ∨
          ∃ context, scheduler.store.get? event.uri = some context ∧ context.snapshot = snapshot) := by
  have hrun : ∀ snapshot kind, (setup.pipeline.run snapshot kind).2.filter Effect.isReport =
      (setup.pipeline.run snapshot kind).2 := fun snapshot kind =>
    List.filter_eq_self.mpr (setup.pipeline.run_reports snapshot kind)
  have hkeep : ∀ uri context kind,
      (scheduler.keepEffects setup uri context kind).filter Effect.isReport =
        (setup.pipeline.run context.snapshot kind).2 := by
    intro uri context kind
    rw [keepEffects, List.filter_append, hrun]
    exact List.append_nil _
  cases h with
  | fire _ hkind hstored =>
      exact .inr ⟨_, _, hkeep _ _ _, rfl, hkind, .inr ⟨_, hstored, rfl⟩⟩
  | supersede hkind _ _ _ => exact .inr ⟨_, _, hrun _ _, rfl, hkind, .inl rfl⟩
  | refresh hkind _ => exact .inr ⟨_, _, hkeep _ _ _, rfl, hkind, .inl rfl⟩
  | _ => exact .inl ⟨rfl, rfl⟩

/-- What the pipeline does for an event is of a snapshot of the document that
the event is about. -/
theorem Move.work_owned (h : Move setup scheduler event next reply effects)
    (howned : ∀ uri context, scheduler.store.get? uri = some context → context.OwnedBy uri) :
    effects.filter Effect.isReport = [] ∨
      ∃ snapshot kind, snapshot.uri = event.uri ∧
        effects.filter Effect.isReport = (setup.pipeline.run snapshot kind).2 := by
  rcases h.work_cases with ⟨hidle, _⟩ | ⟨snapshot, kind, hwork, _, _, hsource⟩
  · exact .inl hidle
  · refine .inr ⟨snapshot, kind, ?_, hwork⟩
    rcases hsource with rfl | ⟨context, hstored, rfl⟩
    · rfl
    · exact (howned _ _ hstored).snapshot_uri

/-- What is parsed is tracked. -/
theorem Move.work_of_untracked (h : Move setup scheduler event next reply effects)
    (huntracked : next.store.get? event.uri = none) : effects.filter Effect.isReport = [] := by
  cases h with
  | fire _ _ _ => simp [Event.uri, keep] at huntracked
  | supersede _ hstored _ _ => cases huntracked.symm.trans hstored
  | refresh _ _ => simp [Event.uri, keep] at huntracked
  | _ => rfl

/-- Diagnostics are handed on for tracked documents only. -/
theorem Move.published_tracked (h : Move setup scheduler event next reply effects)
    (howned : ∀ uri context, next.store.get? uri = some context → context.OwnedBy uri)
    {diagnostics : List Diagnostic} (hpublished : .published diagnostics ∈ effects) :
    ∀ diagnostic ∈ diagnostics, (next.store.get? diagnostic.uri).isSome := by
  intro diagnostic member
  rw [h.published_eq hpublished] at member
  have hlisted : diagnostic ∈ Store.diagnosticsOf next.store diagnostic.uri := by
    rw [← Store.filter_diagnostics fun uri context hstored => (howned uri context hstored).diagnostics_uri]
    exact List.mem_filter.mpr ⟨member, decide_eq_true rfl⟩
  rw [Store.diagnosticsOf] at hlisted
  cases hstored : next.store.get? diagnostic.uri with
  | none =>
      rw [hstored] at hlisted
      cases hlisted
  | some context => rfl

theorem log_work_owned (setup : Setup Tree Metadata) (events : List Event)
    {entry : Handling Tree Metadata} (hentry : entry ∈ initial.log setup events) :
    entry.work = [] ∨ ∃ snapshot kind, snapshot.uri = entry.event.uri ∧
      entry.work = (setup.pipeline.run snapshot kind).2 := by
  obtain ⟨earlier, later, hlog⟩ := List.append_of_mem hentry
  obtain ⟨first, _, _, _, hhandled, _⟩ := log_eq_append hlog
  refine (mem_log_move hentry).work_owned ?_
  rw [hhandled]
  exact handleAll_ownedBy setup first

theorem engineCalls_of_work (effects : List Effect) :
    effects.filterMap Effect.engineCall? =
      (effects.filter Effect.isReport).filterMap Effect.engineCall? := by
  rw [List.filterMap_filter]
  congr
  funext effect
  cases effect with
  | _ => rfl

/-- Tracked are the documents on the allow list for which something was
submitted since the last close. -/
theorem Move.isStored_iff {history : History} (h : Move setup scheduler event next reply effects)
    (hbefore : ∀ uri, (scheduler.store.get? uri).isSome ↔
      (setup.config.allowList.classify uri).isSome ∧ history uri ≠ []) (uri : Uri) :
    (next.store.get? uri).isSome ↔
      (setup.config.allowList.classify uri).isSome ∧ history.record event uri ≠ [] := by
  by_cases huri : uri = event.uri
  · subst huri
    have hold := hbefore event.uri
    cases h with
    | ignore hnone | decline hnone =>
        simp only [Event.uri, hnone, Option.isSome_none, Bool.false_eq_true, false_and] at hold ⊢
        exact hold
    | edit hkind => simp [Event.uri, hkind, History.record]
    | close => simp [Event.uri, History.record]
    | lookUp | stale _ | idle _ _ => exact hold
    | fire _ hkind hstored =>
        simp only [Event.uri, hkind, hstored] at hold
        simpa [Event.uri, hkind, keep, History.record] using hold
    | serve hkind hstored _ _ => simp [Event.uri, hstored, hkind, History.record]
    | serveOlder hkind hstored _ _ => simp [Event.uri, hstored, hkind, History.record]
    | supersede hkind hstored _ _ => simp [Event.uri, hstored, hkind, History.record]
    | refresh hkind _ => simp [Event.uri, hkind, keep, History.record]
  · rw [h.get?_of_ne huri, history.record_of_ne huri]
    exact hbefore uri

theorem handleAll_isStored_iff (setup : Setup Tree Metadata) (events : List Event) (uri : Uri) :
    ((initial : Scheduler Tree Metadata).handleAll setup events |>.1.store.get? uri).isSome ↔
      (setup.config.allowList.classify uri).isSome ∧ History.ofEvents events uri ≠ [] := by
  refine handleAll_induction setup initial events
    (P := fun done scheduler _ => ∀ uri, (scheduler.store.get? uri).isSome ↔
      (setup.config.allowList.classify uri).isSome ∧ History.ofEvents done uri ≠ []) ?_ ?_ uri
  · intro uri
    simp [initial, History.ofEvents, History.empty]
  · intro done event rest next reply fresh _ h move uri
    rw [History.ofEvents_concat]
    exact move.isStored_iff h uri

/-- The engine is given submitted texts of documents on the allow list, each
with its own path. -/
theorem engineCall_submitted (setup : Setup Tree Metadata) {events : List Event} {event : Event}
    {call : String × FilePath × Bool}
    (hcall : call ∈
      (((initial : Scheduler Tree Metadata).handleAll setup events).1.handling setup event).engineCalls) :
    ∃ snapshot kind, (∃ request ∈ events ++ [event], request.request? = some snapshot) ∧
      snapshot.uri = event.uri ∧ setup.config.allowList.classify snapshot.uri = some kind ∧
      call = (snapshot.text, snapshot.uri.derivedPath, kind.isTemplate) := by
  let scheduler := ((initial : Scheduler Tree Metadata).handleAll setup events).1
  rw [Handling.engineCalls, engineCalls_of_work] at hcall
  rcases (handling_move setup scheduler event).work_cases with
    ⟨hidle, _⟩ | ⟨snapshot, kind, hwork, _, hkind, hsource⟩
  · rw [hidle] at hcall
    cases hcall
  · have hrequest : ∃ request ∈ events ++ [event], request.request? = some snapshot := by
      rcases hsource with rfl | ⟨context, hstored, rfl⟩
      · exact ⟨.parseNow snapshot, by simp, rfl⟩
      · obtain ⟨request, member, hrequest⟩ := handleAll_submitted setup events _ _ hstored
        exact ⟨request, List.mem_append_left _ member, hrequest⟩
    have huri : snapshot.uri = event.uri := by
      rcases hsource with rfl | ⟨context, hstored, rfl⟩
      · rfl
      · exact (handleAll_ownedBy setup events _ _ hstored).snapshot_uri
    obtain ⟨request, member, hsnapshot⟩ := hrequest
    rw [hwork, Pipeline.run_engineCalls, List.mem_singleton, snapshot.derived] at hcall
    exact ⟨snapshot, kind, ⟨request, member, hsnapshot⟩, huri, huri ▸ hkind, hcall⟩

/-- Whatever the order of the events, whichever versions they have and
whichever fires they name: a document is tracked if and only if it is on the
allow list and an edit or an immediate parse of it came after its last close.
Every pending timer is that of a tracked document, so its fire parses the
stored snapshot and hands on the diagnostics. Every stored context is well
formed. And the engine is only given submitted texts of documents on the allow
list, with the paths that their identities give. -/
theorem store_well_formed (setup : Setup Tree Metadata) (events : List Event) :
    let scheduler := ((initial : Scheduler Tree Metadata).handleAll setup events).1
    (∀ uri, (scheduler.store.get? uri).isSome ↔
      (setup.config.allowList.classify uri).isSome ∧
        ∃ earlier event later snapshot, events = earlier ++ event :: later ∧
          event.request? = some snapshot ∧ snapshot.uri = uri ∧ .close uri ∉ later) ∧
      (∀ uri generation, scheduler.timers.pending.get? uri = some generation →
        ∃ context kind, scheduler.store.get? uri = some context ∧
          setup.config.allowList.classify uri = some kind ∧
          let (next, _, effects) := scheduler.step setup (.timerFired uri generation)
          next.store.get? uri = some (setup.parsed scheduler.parses context kind) ∧
            effects = (setup.pipeline.run context.snapshot kind).2 ++
              [.published (Store.diagnostics next.store)]) ∧
      (∀ uri context, scheduler.store.get? uri = some context → context.WellFormed setup uri) ∧
      ∀ earlier event later, events = earlier ++ event :: later →
        ∀ call ∈ ((initial.handleAll setup earlier).1.handling setup event).engineCalls,
          ∃ snapshot kind, (∃ request ∈ earlier ++ [event], request.request? = some snapshot) ∧
            snapshot.uri = event.uri ∧ setup.config.allowList.classify snapshot.uri = some kind ∧
            call = (snapshot.text, snapshot.uri.derivedPath, kind.isTemplate) := by
  intro scheduler
  refine ⟨?_, ?_, ?_, ?_⟩
  · intro uri
    rw [handleAll_isStored_iff]
    constructor
    · rintro ⟨hallowed, hsubmitted⟩
      obtain ⟨snapshot, member⟩ := List.exists_mem_of_ne_nil _ hsubmitted
      obtain ⟨earlier, event, later, hrequested⟩ := History.mem_ofEvents_iff.mp member
      exact ⟨hallowed, earlier, event, later, snapshot, hrequested⟩
    · rintro ⟨hallowed, earlier, event, later, snapshot, hrequested⟩
      have member : snapshot ∈ History.ofEvents events uri :=
        History.mem_ofEvents_iff.mpr ⟨earlier, event, later, hrequested⟩
      exact ⟨hallowed, List.ne_nil_of_mem member⟩
  · intro uri generation hpending
    have hslots : scheduler.Slotted setup := (log_pending setup events).1
    obtain ⟨context, hstored⟩ := hslots.stored uri generation hpending
    obtain ⟨kind, hkind⟩ := hslots.allowed uri generation hpending
    refine ⟨context, kind, hstored, hkind, ?_⟩
    rw [(Move.fire hpending hkind hstored).eq_step]
    exact ⟨Registry.get?_insert_self _ _ _, rfl⟩
  · refine handleAll_stored setup events ?_ ?_ ?_
    · intro event _ snapshot _
      exact Context.wellFormed_unparsed snapshot
    · intro event _ snapshot _ context hcontext
      exact hcontext.update
    · intro uri context identity kind hcontext
      exact hcontext.parsed identity kind
  · intro earlier event later hsplit call hcall
    exact engineCall_submitted setup hcall

/-- The first text has an error, the second waits, the fire of the first comes
again, and a document is asked for that is not on the allow list. -/
def failedThenEdited : List Event := [
  .edit (.ofText page "" 1),
  .timerFired page 1,
  .edit (.ofText page "2" 2),
  .timerFired page 1,
  .parseNow (.ofText ⟨"doc://notes.txt"⟩ "x" 1)]

theorem store_well_formed_failed :
    let scheduler := ((initial : Scheduler String Nat).handleAll plainTexts failedThenEdited).1
    (scheduler.store.get? ⟨"doc://notes.txt"⟩).isSome = false ∧
      scheduler.timers.pending.get? page = some 2 ∧
      ∃ context, scheduler.store.get? page = some context ∧ context.parsedVersion = some 1 ∧
        (∃ diagnostic ∈ context.diagnostics, diagnostic.severity = .error ∧
          diagnostic.path = page.derivedPath) ∧
        (scheduler.step plainTexts (.timerFired page 2)).2.2 ≠ [] := by
  obtain ⟨htracked, hfires, hcontexts, _⟩ := store_well_formed plainTexts failedThenEdited
  intro scheduler
  have hpending : scheduler.timers.pending.get? page = some 2 := rfl
  have hnotes : (scheduler.store.get? ⟨"doc://notes.txt"⟩).isSome = false := by
    refine Bool.eq_false_iff.mpr fun hstored => ?_
    have hallowed := ((htracked _).mp hstored).1
    exact absurd hallowed (by decide)
  obtain ⟨context, kind, hstored, _, _, heffects⟩ := hfires page 2 hpending
  have hformed := hcontexts page context hstored
  have hcontext : context.parsedVersion = some 1 ∧ context.tree = none := by
    obtain rfl := Option.some.inj hstored
    exact ⟨rfl, rfl⟩
  obtain ⟨diagnostic, member, hseverity⟩ := hformed.failed (by rw [hcontext.1]; rfl) hcontext.2
  refine ⟨hnotes, hpending, context, hstored, hcontext.1,
    ⟨diagnostic, member, hseverity, (hformed.attached diagnostic member).2.1⟩, ?_⟩
  intro hnone
  exact List.append_ne_nil_of_right_ne_nil _ (List.cons_ne_nil _ _) (heffects.symm.trans hnone)

end Scheduler

end CelWatch
