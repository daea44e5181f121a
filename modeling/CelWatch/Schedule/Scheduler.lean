import CelWatch.Document.Store
import CelWatch.Schedule.Pipeline
import CelWatch.Schedule.Timers
import CelWatch.Settings.Basic

/-!
The scheduler decides when documents are parsed and keeps what parsing made of
them. An edit only starts a timer; the parse comes when the timer fires. An
immediate parse is answered from the store where the store has the answer. All
events pass through `step` one after the other.
-/

namespace CelWatch

/-- What a scheduler works with. -/
structure Setup (Tree Metadata : Type) where
  config : SchedulerConfig
  pipeline : Pipeline Tree Metadata

inductive Event where
  /-- A document has a new text. -/
  | edit (snapshot : Snapshot)
  /-- A document is no longer tracked. -/
  | close (uri : Uri)
  /-- The results for a snapshot are wanted now. -/
  | parseNow (snapshot : Snapshot)
  /-- What the store has is wanted. -/
  | cached (uri : Uri)
  | timerFired (uri : Uri) (generation : Nat)
deriving DecidableEq, Repr

/-- The answer to an event. -/
inductive Reply (Tree Metadata : Type) where
  | none
  | context (context : Context Tree Metadata)
  | cached (context : Option (Context Tree Metadata))

structure Scheduler (Tree Metadata : Type) where
  store : Store Tree Metadata
  timers : Timers
  /-- The number of parses so far. Each gives the next number to its tree. -/
  parses : Nat

namespace Scheduler

variable {Tree Metadata : Type}

def initial : Scheduler Tree Metadata := ⟨.empty, .initial, 0⟩

/-- Parses the snapshot of a context and puts the result into it. -/
def parse (setup : Setup Tree Metadata) (scheduler : Scheduler Tree Metadata)
    (context : Context Tree Metadata) (kind : DocumentKind) :
    Scheduler Tree Metadata × Context Tree Metadata × List Effect :=
  let (result, effects) := setup.pipeline.run context.snapshot kind
  ({ scheduler with parses := scheduler.parses + 1 }, result.store scheduler.parses context, effects)

/-- Puts a context into the store and hands on the diagnostics of all. -/
def commit (scheduler : Scheduler Tree Metadata) (uri : Uri) (context : Context Tree Metadata) :
    Scheduler Tree Metadata × List Effect :=
  let store := scheduler.store.insert uri context
  ({ scheduler with store := store }, [.published (Store.diagnostics store)])

/-- Keeps the snapshot and starts the timer of the document anew. The results
of the last parse stay until the next. -/
def edit (setup : Setup Tree Metadata) (scheduler : Scheduler Tree Metadata)
    (snapshot : Snapshot) : Scheduler Tree Metadata × List Effect :=
  match setup.config.allowList.classify snapshot.uri with
  | none => (scheduler, [])
  | some _ =>
    let timers := scheduler.timers.arm snapshot.uri
    let context := match scheduler.store.get? snapshot.uri with
      | some context => context.update snapshot
      | none => .unparsed snapshot
    ({ scheduler with timers := timers, store := scheduler.store.insert snapshot.uri context },
      [.armed snapshot.uri timers.armed])

/-- Forgets the document and its timer, and hands on what is left. -/
def close (scheduler : Scheduler Tree Metadata) (uri : Uri) :
    Scheduler Tree Metadata × List Effect :=
  let store := scheduler.store.erase uri
  ({ scheduler with timers := scheduler.timers.cancel uri, store := store },
    [.published (Store.diagnostics store)])

/-- Parses the stored snapshot, unless the fire is in vain. -/
def fire (setup : Setup Tree Metadata) (scheduler : Scheduler Tree Metadata) (uri : Uri)
    (generation : Nat) : Scheduler Tree Metadata × List Effect :=
  match scheduler.timers.take? uri generation with
  | none => (scheduler, [])
  | some timers =>
    let scheduler := { scheduler with timers := timers }
    match setup.config.allowList.classify uri, scheduler.store.get? uri with
    | some kind, some context =>
      let (scheduler, context, effects) := scheduler.parse setup context kind
      let (scheduler, published) := scheduler.commit uri context
      (scheduler, effects ++ published)
    | _, _ => (scheduler, [])

/-- Answers from the results in the store. A timer that waits with a newer
edit goes on waiting. -/
def serve (scheduler : Scheduler Tree Metadata) (snapshot : Snapshot)
    (context : Context Tree Metadata) :
    Scheduler Tree Metadata × Context Tree Metadata × List Effect :=
  if context.snapshot.version ≤ snapshot.version then
    ({ scheduler with timers := scheduler.timers.cancel snapshot.uri }, context, [])
  else
    (scheduler, context, [])

/-- Parses the snapshot and keeps the results. -/
def refresh (setup : Setup Tree Metadata) (scheduler : Scheduler Tree Metadata)
    (snapshot : Snapshot) (kind : DocumentKind) :
    Scheduler Tree Metadata × Context Tree Metadata × List Effect :=
  let scheduler := { scheduler with timers := scheduler.timers.cancel snapshot.uri }
  let (scheduler, context, effects) := scheduler.parse setup (.unparsed snapshot) kind
  let (scheduler, published) := scheduler.commit snapshot.uri context
  (scheduler, context, effects ++ published)

/-- The results for a snapshot: those in the store, where it has them for this
version; else those of a parse, which the store keeps unless its own snapshot
is newer. -/
def parseNow (setup : Setup Tree Metadata) (scheduler : Scheduler Tree Metadata)
    (snapshot : Snapshot) : Scheduler Tree Metadata × Context Tree Metadata × List Effect :=
  match setup.config.allowList.classify snapshot.uri with
  | none => (scheduler, .unparsed snapshot, [])
  | some kind =>
    match scheduler.store.get? snapshot.uri with
    | none => scheduler.refresh setup snapshot kind
    | some stored =>
      if stored.isParsedAt snapshot.version then scheduler.serve snapshot stored
      else if stored.snapshot.version > snapshot.version then
        scheduler.parse setup (.unparsed snapshot) kind
      else scheduler.refresh setup snapshot kind

/-- What an event does: the new state, the answer, and the effects in order. -/
def step (setup : Setup Tree Metadata) (scheduler : Scheduler Tree Metadata) :
    Event → Scheduler Tree Metadata × Reply Tree Metadata × List Effect
  | .edit snapshot =>
    let (next, effects) := scheduler.edit setup snapshot
    (next, .none, effects)
  | .close uri =>
    let (next, effects) := scheduler.close uri
    (next, .none, effects)
  | .parseNow snapshot =>
    let (next, context, effects) := scheduler.parseNow setup snapshot
    (next, .context context, effects)
  | .cached uri => (scheduler, .cached (scheduler.store.get? uri), [])
  | .timerFired uri generation =>
    let (next, effects) := scheduler.fire setup uri generation
    (next, .none, effects)

end Scheduler

end CelWatch
