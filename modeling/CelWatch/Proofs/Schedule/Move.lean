import CelWatch.Schedule.Scheduler

/-!
The ways in which a scheduler can handle an event, as a relation between the
state before and what comes of it, and runs over any list of events. Nothing
is asked of the events: a fire may name any generation, at any time and as
often as it likes. What every move keeps, every run keeps.
-/

namespace CelWatch

variable {Tree Metadata : Type}

/-- The document that an event is about. -/
def Event.uri : Event → Uri
  | .edit snapshot | .parseNow snapshot => snapshot.uri
  | .close uri | .cached uri | .timerFired uri _ => uri

/-- A context with the results of a parse of its snapshot. -/
def Setup.parsed (setup : Setup Tree Metadata) (identity : Nat) (context : Context Tree Metadata)
    (kind : DocumentKind) : Context Tree Metadata :=
  (setup.pipeline.run context.snapshot kind).1.store identity context

namespace Scheduler

variable {setup : Setup Tree Metadata} {scheduler next : Scheduler Tree Metadata}
  {event : Event} {reply : Reply Tree Metadata} {effects : List Effect}

/-- The context of a document with a new snapshot. -/
def received (scheduler : Scheduler Tree Metadata) (snapshot : Snapshot) :
    Context Tree Metadata :=
  match scheduler.store.get? snapshot.uri with
  | some context => context.update snapshot
  | none => .unparsed snapshot

theorem received_snapshot (scheduler : Scheduler Tree Metadata) (snapshot : Snapshot) :
    (scheduler.received snapshot).snapshot = snapshot := by
  unfold received
  cases scheduler.store.get? snapshot.uri with
  | none => rfl
  | some context => rfl

/-- The state with a parsed context in the store. Whoever parses for the store
has taken the timer of the document away. -/
def keep (setup : Setup Tree Metadata) (scheduler : Scheduler Tree Metadata) (uri : Uri)
    (context : Context Tree Metadata) (kind : DocumentKind) : Scheduler Tree Metadata where
  store := scheduler.store.insert uri (setup.parsed scheduler.parses context kind)
  timers := scheduler.timers.cancel uri
  parses := scheduler.parses + 1

/-- What a parse for the store does to the world. -/
def keepEffects (setup : Setup Tree Metadata) (scheduler : Scheduler Tree Metadata) (uri : Uri)
    (context : Context Tree Metadata) (kind : DocumentKind) : List Effect :=
  (setup.pipeline.run context.snapshot kind).2 ++
    [.published (Store.diagnostics (scheduler.keep setup uri context kind).store)]

/-- How one event is handled. There is a constructor for each way, with what
decides for it. -/
inductive Move (setup : Setup Tree Metadata) (scheduler : Scheduler Tree Metadata) :
    Event → Scheduler Tree Metadata → Reply Tree Metadata → List Effect → Prop where
  | ignore {snapshot : Snapshot}
      (hkind : setup.config.allowList.classify snapshot.uri = none) :
      Move setup scheduler (.edit snapshot) scheduler .none []
  | edit {snapshot : Snapshot} {kind : DocumentKind}
      (hkind : setup.config.allowList.classify snapshot.uri = some kind) :
      Move setup scheduler (.edit snapshot)
        { scheduler with
          store := scheduler.store.insert snapshot.uri (scheduler.received snapshot)
          timers := scheduler.timers.arm snapshot.uri }
        .none [.armed snapshot.uri (scheduler.timers.armed + 1)]
  | close {uri : Uri} :
      Move setup scheduler (.close uri)
        { scheduler with
          store := scheduler.store.erase uri
          timers := scheduler.timers.cancel uri }
        .none [.published (Store.diagnostics (scheduler.store.erase uri))]
  | lookUp {uri : Uri} :
      Move setup scheduler (.cached uri) scheduler (.cached (scheduler.store.get? uri)) []
  | stale {uri : Uri} {generation : Nat}
      (hpending : scheduler.timers.pending.get? uri ≠ some generation) :
      Move setup scheduler (.timerFired uri generation) scheduler .none []
  /-- The fire is taken, but there is nothing to parse. -/
  | idle {uri : Uri} {generation : Nat}
      (hpending : scheduler.timers.pending.get? uri = some generation)
      (huntracked : setup.config.allowList.classify uri = none ∨ scheduler.store.get? uri = none) :
      Move setup scheduler (.timerFired uri generation)
        { scheduler with timers := scheduler.timers.cancel uri } .none []
  | fire {uri : Uri} {generation : Nat} {kind : DocumentKind} {context : Context Tree Metadata}
      (hpending : scheduler.timers.pending.get? uri = some generation)
      (hkind : setup.config.allowList.classify uri = some kind)
      (hstored : scheduler.store.get? uri = some context) :
      Move setup scheduler (.timerFired uri generation) (scheduler.keep setup uri context kind)
        .none (scheduler.keepEffects setup uri context kind)
  | decline {snapshot : Snapshot}
      (hkind : setup.config.allowList.classify snapshot.uri = none) :
      Move setup scheduler (.parseNow snapshot) scheduler (.context (.unparsed snapshot)) []
  | serve {snapshot : Snapshot} {kind : DocumentKind} {context : Context Tree Metadata}
      (hkind : setup.config.allowList.classify snapshot.uri = some kind)
      (hstored : scheduler.store.get? snapshot.uri = some context)
      (hparsed : context.parsedVersion = some snapshot.version)
      (hversion : context.snapshot.version ≤ snapshot.version) :
      Move setup scheduler (.parseNow snapshot)
        { scheduler with timers := scheduler.timers.cancel snapshot.uri } (.context context) []
  /-- The timer of the newer edit goes on waiting. -/
  | serveOlder {snapshot : Snapshot} {kind : DocumentKind} {context : Context Tree Metadata}
      (hkind : setup.config.allowList.classify snapshot.uri = some kind)
      (hstored : scheduler.store.get? snapshot.uri = some context)
      (hparsed : context.parsedVersion = some snapshot.version)
      (hversion : snapshot.version < context.snapshot.version) :
      Move setup scheduler (.parseNow snapshot) scheduler (.context context) []
  /-- The results for a snapshot that is older than the stored one are handed
  out and not kept. -/
  | supersede {snapshot : Snapshot} {kind : DocumentKind} {context : Context Tree Metadata}
      (hkind : setup.config.allowList.classify snapshot.uri = some kind)
      (hstored : scheduler.store.get? snapshot.uri = some context)
      (hparsed : context.parsedVersion ≠ some snapshot.version)
      (hversion : snapshot.version < context.snapshot.version) :
      Move setup scheduler (.parseNow snapshot)
        { scheduler with parses := scheduler.parses + 1 }
        (.context (setup.parsed scheduler.parses (.unparsed snapshot) kind))
        (setup.pipeline.run snapshot kind).2
  | refresh {snapshot : Snapshot} {kind : DocumentKind}
      (hkind : setup.config.allowList.classify snapshot.uri = some kind)
      (hstored : ∀ context, scheduler.store.get? snapshot.uri = some context →
        context.parsedVersion ≠ some snapshot.version ∧
          context.snapshot.version ≤ snapshot.version) :
      Move setup scheduler (.parseNow snapshot)
        (scheduler.keep setup snapshot.uri (.unparsed snapshot) kind)
        (.context (setup.parsed scheduler.parses (.unparsed snapshot) kind))
        (scheduler.keepEffects setup snapshot.uri (.unparsed snapshot) kind)

theorem edit_move (setup : Setup Tree Metadata) (scheduler : Scheduler Tree Metadata)
    (snapshot : Snapshot) :
    Move setup scheduler (.edit snapshot) (scheduler.edit setup snapshot).1 .none
      (scheduler.edit setup snapshot).2 := by
  cases hkind : setup.config.allowList.classify snapshot.uri with
  | none =>
      simp only [edit, hkind]
      exact Move.ignore hkind
  | some kind =>
      simp only [edit, hkind]
      exact Move.edit hkind

theorem fire_move (setup : Setup Tree Metadata) (scheduler : Scheduler Tree Metadata) (uri : Uri)
    (generation : Nat) :
    Move setup scheduler (.timerFired uri generation) (scheduler.fire setup uri generation).1 .none
      (scheduler.fire setup uri generation).2 := by
  by_cases hpending : scheduler.timers.pending.get? uri = some generation
  · cases hkind : setup.config.allowList.classify uri with
    | none =>
        simp only [fire, Timers.take?, if_pos hpending, hkind]
        exact Move.idle hpending (.inl hkind)
    | some kind =>
        cases hstored : scheduler.store.get? uri with
        | none =>
            simp only [fire, Timers.take?, if_pos hpending, hkind, hstored]
            exact Move.idle hpending (.inr hstored)
        | some context =>
            simp only [fire, Timers.take?, if_pos hpending, hkind, hstored]
            exact Move.fire hpending hkind hstored
  · simp only [fire, Timers.take?, if_neg hpending]
    exact Move.stale hpending

theorem parseNow_move (setup : Setup Tree Metadata) (scheduler : Scheduler Tree Metadata)
    (snapshot : Snapshot) :
    Move setup scheduler (.parseNow snapshot) (scheduler.parseNow setup snapshot).1
      (.context (scheduler.parseNow setup snapshot).2.1)
      (scheduler.parseNow setup snapshot).2.2 := by
  cases hkind : setup.config.allowList.classify snapshot.uri with
  | none =>
      simp only [parseNow, hkind]
      exact Move.decline hkind
  | some kind =>
      cases hstored : scheduler.store.get? snapshot.uri with
      | none =>
          have hnone : ∀ context, scheduler.store.get? snapshot.uri = some context →
              context.parsedVersion ≠ some snapshot.version ∧
                context.snapshot.version ≤ snapshot.version := by
            intro context hcontext
            rw [hstored] at hcontext
            cases hcontext
          simp only [parseNow, hkind, hstored]
          exact Move.refresh hkind hnone
      | some context =>
          by_cases hparsed : context.parsedVersion = some snapshot.version
          · have hserved := Context.isParsedAt_iff.mpr hparsed
            by_cases hversion : context.snapshot.version ≤ snapshot.version
            · simp only [parseNow, hkind, hstored, if_pos hserved, serve, if_pos hversion]
              exact Move.serve hkind hstored hparsed hversion
            · simp only [parseNow, hkind, hstored, if_pos hserved, serve, if_neg hversion]
              exact Move.serveOlder hkind hstored hparsed (by omega)
          · have hserved := mt Context.isParsedAt_iff.mp hparsed
            by_cases hversion : context.snapshot.version > snapshot.version
            · simp only [parseNow, hkind, hstored, if_neg hserved, if_pos hversion]
              exact Move.supersede hkind hstored hparsed hversion
            · have hstored' : ∀ other, scheduler.store.get? snapshot.uri = some other →
                  other.parsedVersion ≠ some snapshot.version ∧
                    other.snapshot.version ≤ snapshot.version := by
                intro other hother
                rw [hstored] at hother
                obtain rfl := Option.some.inj hother
                exact ⟨hparsed, by omega⟩
              simp only [parseNow, hkind, hstored, if_neg hserved, if_neg hversion]
              exact Move.refresh hkind hstored'

/-- Every step is a move. -/
theorem step_move (setup : Setup Tree Metadata) (scheduler : Scheduler Tree Metadata)
    (event : Event) :
    Move setup scheduler event (scheduler.step setup event).1 (scheduler.step setup event).2.1
      (scheduler.step setup event).2.2 := by
  cases event with
  | edit snapshot => exact edit_move setup scheduler snapshot
  | close uri => exact .close
  | parseNow snapshot => exact parseNow_move setup scheduler snapshot
  | cached uri => exact .lookUp
  | timerFired uri generation => exact fire_move setup scheduler uri generation

/-- There is one move for every event. -/
theorem Move.eq_step (h : Move setup scheduler event next reply effects) :
    scheduler.step setup event = (next, reply, effects) := by
  cases h with
  | ignore hkind => simp only [step, Scheduler.edit, hkind]
  | edit hkind =>
      simp only [step, Scheduler.edit, hkind]
      rfl
  | close => rfl
  | lookUp => rfl
  | stale hpending => simp only [step, Scheduler.fire, Timers.take?, if_neg hpending]
  | @idle uri _ hpending huntracked =>
      rcases huntracked with hnone | hnone
      · simp only [step, Scheduler.fire, Timers.take?, if_pos hpending, hnone]
      · cases hkind : setup.config.allowList.classify uri with
        | none => simp only [step, Scheduler.fire, Timers.take?, if_pos hpending, hkind]
        | some kind =>
            simp only [step, Scheduler.fire, Timers.take?, if_pos hpending, hkind, hnone]
  | fire hpending hkind hstored =>
      simp only [step, Scheduler.fire, Timers.take?, if_pos hpending, hkind, hstored]
      rfl
  | decline hkind => simp only [step, parseNow, hkind]
  | serve hkind hstored hparsed hversion =>
      have hserved := Context.isParsedAt_iff.mpr hparsed
      simp only [step, parseNow, hkind, hstored, if_pos hserved, Scheduler.serve, if_pos hversion]
  | serveOlder hkind hstored hparsed hversion =>
      have hserved := Context.isParsedAt_iff.mpr hparsed
      simp only [step, parseNow, hkind, hstored, if_pos hserved, Scheduler.serve,
        if_neg (Int.not_le.mpr hversion)]
  | supersede hkind hstored hparsed hversion =>
      have hserved := mt Context.isParsedAt_iff.mp hparsed
      simp only [step, parseNow, hkind, hstored, if_neg hserved, gt_iff_lt, if_pos hversion]
      rfl
  | @refresh snapshot kind hkind hstored =>
      cases hbefore : scheduler.store.get? snapshot.uri with
      | none =>
          simp only [step, parseNow, hkind, hbefore]
          rfl
      | some context =>
          obtain ⟨hparsed, hversion⟩ := hstored context hbefore
          have hserved := mt Context.isParsedAt_iff.mp hparsed
          simp only [step, parseNow, hkind, hbefore, if_neg hserved, gt_iff_lt,
            if_neg (Int.not_lt.mpr hversion)]
          rfl

/-- A move touches the store at its own document only. -/
theorem Move.get?_of_ne (h : Move setup scheduler event next reply effects) {uri : Uri}
    (hne : uri ≠ event.uri) : next.store.get? uri = scheduler.store.get? uri := by
  cases h with
  | edit _ => exact Registry.get?_insert_of_ne _ _ hne
  | close => exact Registry.get?_erase_of_ne _ hne
  | fire _ _ _ => exact Registry.get?_insert_of_ne _ _ hne
  | refresh _ _ => exact Registry.get?_insert_of_ne _ _ hne
  | _ => rfl

/-- A move touches the timer of its own document only. -/
theorem Move.pending_of_ne (h : Move setup scheduler event next reply effects) {uri : Uri}
    (hne : uri ≠ event.uri) :
    next.timers.pending.get? uri = scheduler.timers.pending.get? uri := by
  cases h with
  | edit _ => exact Registry.get?_insert_of_ne _ _ hne
  | close => exact Registry.get?_erase_of_ne _ hne
  | idle _ _ => exact Registry.get?_erase_of_ne _ hne
  | fire _ _ _ => exact Registry.get?_erase_of_ne _ hne
  | serve _ _ _ _ => exact Registry.get?_erase_of_ne _ hne
  | refresh _ _ => exact Registry.get?_erase_of_ne _ hne
  | _ => rfl

/-- Handles events one after the other. -/
def handleAll (setup : Setup Tree Metadata) (scheduler : Scheduler Tree Metadata) :
    List Event → Scheduler Tree Metadata × List (Reply Tree Metadata) × List Effect
  | [] => (scheduler, [], [])
  | event :: rest =>
    let (next, reply, effects) := scheduler.step setup event
    let (last, replies, later) := next.handleAll setup rest
    (last, reply :: replies, effects ++ later)

theorem handleAll_append (setup : Setup Tree Metadata) (scheduler : Scheduler Tree Metadata)
    (first second : List Event) :
    scheduler.handleAll setup (first ++ second) =
      let (middle, replies, effects) := scheduler.handleAll setup first
      let (last, moreReplies, later) := middle.handleAll setup second
      (last, replies ++ moreReplies, effects ++ later) := by
  induction first generalizing scheduler with
  | nil => rfl
  | cons event rest ih =>
      simp only [List.cons_append, handleAll, ih, List.append_assoc]

theorem handleAll_append_state (setup : Setup Tree Metadata) (scheduler : Scheduler Tree Metadata)
    (first second : List Event) :
    (scheduler.handleAll setup (first ++ second)).1 =
      ((scheduler.handleAll setup first).1.handleAll setup second).1 := by
  rw [handleAll_append]

/-- What holds at the start and is kept by every move of a run holds after the
run. It may speak of the events handled and of the effects so far. -/
theorem handleAll_induction {P : List Event → Scheduler Tree Metadata → List Effect → Prop}
    (setup : Setup Tree Metadata) (start : Scheduler Tree Metadata) (events : List Event)
    (hstart : P [] start [])
    (hmove : ∀ {done event rest next reply fresh}, done ++ event :: rest = events →
      let (scheduler, _, effects) := start.handleAll setup done
      P done scheduler effects → Move setup scheduler event next reply fresh →
      P (done ++ [event]) next (effects ++ fresh)) :
    P events (start.handleAll setup events).1 (start.handleAll setup events).2.2 := by
  have hrun : ∀ rest done, done ++ rest = events →
      P done (start.handleAll setup done).1 (start.handleAll setup done).2.2 →
      P events (start.handleAll setup events).1 (start.handleAll setup events).2.2 := by
    intro rest
    induction rest with
    | nil =>
        intro done hall h
        rw [List.append_nil] at hall
        exact hall ▸ h
    | cons event rest ih =>
        intro done hall h
        apply ih (done ++ [event]) (by simpa using hall)
        rw [handleAll_append]
        simpa [handleAll] using hmove hall h (step_move setup _ event)
  exact hrun events [] rfl hstart

end Scheduler

end CelWatch
