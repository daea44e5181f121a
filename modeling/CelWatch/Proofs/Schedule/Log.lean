import CelWatch.Proofs.Schedule.Publication

/-!
The log of a run. It has an entry for each event, with the state that the event
finds, the state that it leaves, and all that comes of it. What happened
between two events of a run is what stands between their entries.
-/

namespace CelWatch

variable {Tree Metadata : Type}

/-- A text that is given to the engine, with its path and whether it is a
template. -/
def Effect.engineCall? : Effect → Option (String × FilePath × Bool)
  | .parsed text path isTemplate => some (text, path, isTemplate)
  | .warned _ | .reported _ | .armed _ _ | .published _ => none

/-- An event as it was handled. -/
structure Handling (Tree Metadata : Type) where
  event : Event
  before : Scheduler Tree Metadata
  after : Scheduler Tree Metadata
  reply : Reply Tree Metadata
  effects : List Effect

def Handling.engineCalls (entry : Handling Tree Metadata) : List (String × FilePath × Bool) :=
  entry.effects.filterMap Effect.engineCall?

theorem Pipeline.run_engineCalls (pipeline : Pipeline Tree Metadata) (snapshot : Snapshot)
    (kind : DocumentKind) :
    (pipeline.run snapshot kind).2.filterMap Effect.engineCall? =
      [(snapshot.text, snapshot.path, kind.isTemplate)] := by
  obtain ⟨issues, failure?, hends⟩ := pipeline.exists_ends snapshot kind
  rw [hends.run_eq.2]
  cases failure? with
  | none => rfl
  | some detail => rfl

namespace Scheduler

variable {setup : Setup Tree Metadata} {scheduler : Scheduler Tree Metadata}

theorem keepEffects_engineCalls (setup : Setup Tree Metadata)
    (scheduler : Scheduler Tree Metadata) (uri : Uri) (context : Context Tree Metadata)
    (kind : DocumentKind) :
    (scheduler.keepEffects setup uri context kind).filterMap Effect.engineCall? =
      [(context.snapshot.text, context.snapshot.path, kind.isTemplate)] := by
  rw [keepEffects, List.filterMap_append, Pipeline.run_engineCalls]
  rfl

def handling (setup : Setup Tree Metadata) (scheduler : Scheduler Tree Metadata)
    (event : Event) : Handling Tree Metadata :=
  let (after, reply, effects) := scheduler.step setup event
  ⟨event, scheduler, after, reply, effects⟩

def log (setup : Setup Tree Metadata) (scheduler : Scheduler Tree Metadata) :
    List Event → List (Handling Tree Metadata)
  | [] => []
  | event :: rest =>
    let entry := scheduler.handling setup event
    entry :: entry.after.log setup rest

theorem handling_move (setup : Setup Tree Metadata) (scheduler : Scheduler Tree Metadata)
    (event : Event) :
    let entry := scheduler.handling setup event
    Move setup scheduler event entry.after entry.reply entry.effects :=
  step_move setup scheduler event

/-- The effects of a run are those of its entries, one after the other. -/
theorem log_effects (setup : Setup Tree Metadata) (scheduler : Scheduler Tree Metadata)
    (events : List Event) :
    (scheduler.log setup events).flatMap Handling.effects =
      (scheduler.handleAll setup events).2.2 := by
  induction events generalizing scheduler with
  | nil => rfl
  | cons event rest ih =>
      rw [log, List.flatMap_cons, ih]
      rfl

theorem log_append (setup : Setup Tree Metadata) (scheduler : Scheduler Tree Metadata)
    (first second : List Event) :
    scheduler.log setup (first ++ second) =
      scheduler.log setup first ++ (scheduler.handleAll setup first).1.log setup second := by
  induction first generalizing scheduler with
  | nil => rfl
  | cons event rest ih =>
      rw [List.cons_append, log, ih]
      rfl

/-- What stands before and after an entry is the log of a run of its own: one
that leads to the state which the entry finds, and one from the state which it
leaves. -/
theorem log_eq_append {events : List Event} {earlier later : List (Handling Tree Metadata)}
    {entry : Handling Tree Metadata}
    (h : scheduler.log setup events = earlier ++ entry :: later) :
    ∃ first rest, events = first ++ entry.event :: rest ∧
      earlier = scheduler.log setup first ∧
      entry = (scheduler.handleAll setup first).1.handling setup entry.event ∧
      later = entry.after.log setup rest := by
  induction earlier generalizing scheduler events with
  | nil =>
      cases events with
      | nil => cases h
      | cons event rest =>
          obtain ⟨hentry, hlater⟩ := List.cons.inj h
          subst hentry
          exact ⟨[], rest, rfl, rfl, rfl, hlater.symm⟩
  | cons head tail ih =>
      cases events with
      | nil => cases h
      | cons event rest =>
          obtain ⟨hhead, htail⟩ := List.cons.inj h
          subst hhead
          obtain ⟨first, after, hevents, hearlier, hentry, hlater⟩ := ih htail
          refine ⟨event :: first, after, ?_, ?_, hentry, hlater⟩
          · rw [hevents]
            rfl
          · rw [hearlier]
            rfl

theorem log_between {events : List Event} {earlier between later : List (Handling Tree Metadata)}
    {first second : Handling Tree Metadata}
    (h : scheduler.log setup events = earlier ++ first :: between ++ second :: later) :
    ∃ middle, second.before = (first.after.handleAll setup middle).1 := by
  obtain ⟨_, _, _, hearlier, hsecond, _⟩ := log_eq_append h
  obtain ⟨_, middle, rfl, _, hfirst, _⟩ := log_eq_append hearlier.symm
  refine ⟨middle, ?_⟩
  rw [hsecond, hfirst, handleAll_append]
  rfl

/-- What holds of no entries and the first state, and is kept by every entry
that is a move, holds of a log and the state that the run leads to. -/
theorem log_induction {P : List (Handling Tree Metadata) → Scheduler Tree Metadata → Prop}
    (setup : Setup Tree Metadata) (start : Scheduler Tree Metadata) (events : List Event)
    (hstart : P [] start)
    (hentry : ∀ done entry, P done entry.before →
      Move setup entry.before entry.event entry.after entry.reply entry.effects →
      P (done ++ [entry]) entry.after) :
    P (start.log setup events) (start.handleAll setup events).1 := by
  have hrun : ∀ events done state, P done state →
      P (done ++ state.log setup events) (state.handleAll setup events).1 := by
    intro events
    induction events with
    | nil =>
        intro done state h
        rwa [log, List.append_nil]
    | cons event rest ih =>
        intro done state h
        have hnext := hentry done (state.handling setup event) h (handling_move setup state event)
        rw [log, List.append_cons]
        exact ih (done ++ [state.handling setup event]) _ hnext
  exact hrun events [] start hstart

theorem mem_log_move {events : List Event} {entry : Handling Tree Metadata}
    (h : entry ∈ scheduler.log setup events) :
    Move setup entry.before entry.event entry.after entry.reply entry.effects := by
  obtain ⟨earlier, later, hlog⟩ := List.append_of_mem h
  obtain ⟨first, _, _, _, hentry, _⟩ := log_eq_append hlog
  rw [hentry]
  exact step_move setup _ entry.event

end Scheduler

end CelWatch
