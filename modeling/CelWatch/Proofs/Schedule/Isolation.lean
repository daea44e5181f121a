import CelWatch.Proofs.Schedule.Renaming
import CelWatch.Proofs.Schedule.Timing

/-!
Documents do not see each other. Of two runs in time, one has the calls of some
documents only, with the same pauses. The alarms of these documents are the
same in both, up to the numbers of the timers, so the same is handled of them
at the same instants, and they are handled in the same way.
-/

namespace CelWatch

variable {Tree Metadata : Type}

/-- The turn without the calls of other documents. -/
def Turn.only (among : Uri → Bool) (turn : Turn) : Turn :=
  ⟨turn.pause, turn.calls.filter (among ·.event.uri)⟩

theorem Turn.only_events (among : Uri → Bool) (turn : Turn) :
    (turn.only among).events = turn.events.filter (among ·.uri) := by
  rw [events, events, List.filter_map]
  rfl

def Alarm.rename (names : Renaming) (alarm : Alarm) : Alarm :=
  { alarm with generation := names.generation alarm.generation }

theorem Turn.rename_events (names : Renaming) (turn : Turn) :
    turn.events.map (Event.rename names) = turn.events := by
  have hcall : ∀ call ∈ turn.calls, call.event.rename names = call.event := by
    intro call _
    cases call with
    | _ => rfl
  rw [events, List.map_map]
  exact List.map_congr_left hcall

/-- An event with its instant, under other names. -/
def renameStamp (names : Renaming) (stamp : Nat × Event) : Nat × Event :=
  (stamp.1, stamp.2.rename names)

/-- Fires start no timers. -/
theorem armMarks_calls (setup : Setup Tree Metadata) (among : Uri → Bool) (events : List Event) :
    Scheduler.armMarks setup among (events.filter Event.isCall) =
      Scheduler.armMarks setup among events := by
  induction events with
  | nil => rfl
  | cons event rest ih =>
      cases event with
      | timerFired uri generation => exact ih
      | edit _ | close _ | parseNow _ | cached _ => exact congrArg (_ ++ ·) ih

theorem armMarks_fires (setup : Setup Tree Metadata) (among : Uri → Bool) (alarms : List Alarm) :
    Scheduler.armMarks setup among (alarms.map Alarm.fire) = [] := by
  rw [← armMarks_calls, filter_fires]
  rfl

/-- An event starts its timers with the next number. -/
theorem Scheduler.Move.started_eq {setup : Setup Tree Metadata}
    {scheduler next : Scheduler Tree Metadata} {event : Event} {reply : Reply Tree Metadata}
    {effects : List Effect} (h : Move setup scheduler event next reply effects) (delay now : Nat) :
    effects.filterMap (Timed.alarm? delay now) = List.replicate (event.arms setup)
      ⟨event.uri, scheduler.timers.armed + 1, now + delay⟩ := by
  have hnone : event.isEdit = false → effects.filterMap (Timed.alarm? delay now) = [] := by
    intro hevent
    refine List.filterMap_eq_nil_iff.mpr fun effect member => ?_
    cases effect with
    | armed uri generation =>
        obtain ⟨_, _, rfl, _⟩ := h.armed_iff.mp member
        cases hevent
    | _ => rfl
  cases h with
  | ignore hkind => simp [Event.arms, hkind]
  | edit hkind => simp [Event.arms, hkind, Timed.alarm?, Event.uri]
  | _ => exact hnone rfl

namespace Timed

variable {setup : Setup Tree Metadata} {among : Uri → Bool} {names : Renaming}
  {small big : Timed Tree Metadata} {marks later : List Bool} {shared whole : List Event}

/-- Two schedulers in time have the same alarms for some documents. The marks
are those of the timers to come. -/
structure Shadowed (among : Uri → Bool) (names : Renaming) (small big : Timed Tree Metadata)
    (marks : List Bool) : Prop where
  now : small.now = big.now
  alarms : big.alarms.filter (among ·.uri) = small.alarms.map (Alarm.rename names)
  armed : Continues names.generation (small.scheduler.timers.armed + 1)
    (big.scheduler.timers.armed + 1) marks

namespace Shadowed

theorem skip {event : Event} (h : Shadowed among names small big
      (List.replicate (event.arms setup) (among event.uri) ++ later))
    (hamong : among event.uri = false) :
    Shadowed among names small (big.handle setup event).1 later := by
  have hmove := Scheduler.step_move setup big.scheduler event
  refine ⟨h.now, ?_, ?_⟩
  · have hnone : (List.replicate (event.arms setup) (⟨event.uri,
        big.scheduler.timers.armed + 1, big.now + setup.config.debounce⟩ : Alarm)).filter
          (among ·.uri) = [] := by
      simp [hamong]
    rw [handle_alarms, hmove.started_eq, List.filter_append, hnone, List.append_nil, h.alarms]
  · have hrest := (hamong ▸ h.armed).skip
    rw [Nat.add_right_comm, ← hmove.armed_eq] at hrest
    exact hrest

theorem next {event : Event} (h : Shadowed among names small big
      (List.replicate (event.arms setup) (among event.uri) ++ later))
    (hamong : among event.uri = true) :
    Shadowed among names (small.handle setup event).1
      (big.handle setup (event.rename names)).1 later := by
  have hsmall := Scheduler.step_move setup small.scheduler event
  have hbig := Scheduler.step_move setup big.scheduler (event.rename names)
  obtain ⟨hnumber, hrest⟩ := (hamong ▸ h.armed).next
  refine ⟨h.now, ?_, ?_⟩
  · rw [handle_alarms, handle_alarms, hsmall.started_eq, hbig.started_eq, List.filter_append,
      List.map_append, h.alarms]
    congr 1
    rw [Event.rename_arms, Event.rename_uri, List.map_replicate,
      List.filter_replicate_of_pos (by exact hamong)]
    cases harms : event.arms setup with
    | zero => rfl
    | succ count =>
        have hfirst := hnumber (by simp [harms])
        simp [Alarm.rename, hfirst, h.now]
  · have hsame := hbig.armed_eq
    rw [Event.rename_arms] at hsame
    rw [Nat.add_right_comm, ← hsmall.armed_eq, Nat.add_right_comm, ← hsame] at hrest
    exact hrest

theorem handleAll (h : Shadowed among names small big (Scheduler.armMarks setup among whole ++ later))
    (hshared : whole.filter (among ·.uri) = shared.map (Event.rename names)) :
    Shadowed among names (small.handleAll setup shared).1 (big.handleAll setup whole).1 later := by
  induction whole generalizing small big shared with
  | nil =>
      obtain rfl := List.map_eq_nil_iff.mp hshared.symm
      exact h
  | cons event rest ih =>
      rw [Scheduler.armMarks, List.flatMap_cons, ← Scheduler.armMarks, List.append_assoc] at h
      rw [List.filter_cons] at hshared
      cases hamong : among event.uri with
      | false =>
          rw [hamong] at hshared
          have hrest := ih (h.skip hamong) hshared
          exact hrest
      | true =>
          rw [if_pos hamong] at hshared
          cases shared with
          | nil => cases hshared
          | cons first others =>
              obtain ⟨rfl, hothers⟩ := List.cons.inj hshared
              rw [Event.rename_arms, Event.rename_uri] at h
              rw [Event.rename_uri] at hamong
              have hrest := ih (h.next hamong) hothers
              exact hrest

theorem filter_alarms (h : Shadowed among names small big marks) (p : Nat → Bool) :
    (big.alarms.filter (p ·.due)).filter (among ·.uri) =
      (small.alarms.filter (p ·.due)).map (Alarm.rename names) := by
  rw [List.filter_filter, List.filter_congr fun alarm _ => Bool.and_comm _ _,
    ← List.filter_filter, h.alarms, List.filter_map]
  rfl

/-- The fires that come before an instant. -/
theorem dueBefore (h : Shadowed among names small big marks) (limit : Nat) :
    (big.dueBefore limit).filter (among ·.uri) =
      (small.dueBefore limit).map (Alarm.rename names) :=
  h.filter_alarms (· < limit)

theorem fireBefore (h : Shadowed among names small big marks) (limit : Nat) :
    Shadowed among names (small.fireBefore setup limit).1 (big.fireBefore setup limit).1 marks := by
  have hstripped : Shadowed among names (small.stripped limit) (big.stripped limit)
      (Scheduler.armMarks setup among ((big.dueBefore limit).map Alarm.fire) ++ marks) := by
    refine ⟨h.now, h.filter_alarms fun due => !(due < limit), ?_⟩
    rw [armMarks_fires]
    exact h.armed
  refine hstripped.handleAll ?_
  rw [List.filter_map, List.map_map]
  have hdue := congrArg (List.map Alarm.fire) (h.dueBefore limit)
  rw [List.map_map] at hdue
  exact hdue

theorem advance (h : Shadowed among names small big marks) (duration : Nat) :
    Shadowed among names (small.advance setup duration).1 (big.advance setup duration).1 marks := by
  rw [Timed.advance, Timed.advance, h.now]
  have hlater : Shadowed among names { small with now := big.now + duration }
      { big with now := big.now + duration } marks := ⟨rfl, h.alarms, h.armed⟩
  exact hlater.fireBefore _

theorem stamped (h : Shadowed among names small big marks) (limit : Nat) :
    ((big.dueBefore limit).map Alarm.stamped).filter (among ·.2.uri) =
      ((small.dueBefore limit).map Alarm.stamped).map (renameStamp names) := by
  have hdue := congrArg (List.map Alarm.stamped) (h.dueBefore limit)
  rw [List.map_map] at hdue
  rw [List.filter_map, List.map_map]
  exact hdue

/-- In a turn the same is handled of the documents, each event at the same
instant. -/
theorem turn {turn : Turn}
    (h : Shadowed among names small big (Scheduler.armMarks setup among turn.events ++ later)) :
    (big.turnStamps setup turn).filter (among ·.2.uri) =
        (small.turnStamps setup (turn.only among)).map (renameStamp names) ∧
      Shadowed among names (small.advanceWith setup turn.pause (turn.only among).events).1
        (big.advanceWith setup turn.pause turn.events).1 later := by
  have hevents : turn.events.filter (among ·.uri) =
      (turn.only among).events.map (Event.rename names) := by
    rw [Turn.rename_events, Turn.only_events]
  have hpause : (turn.only among).pause = turn.pause := rfl
  have hmoved : Shadowed among names (small.advance setup turn.pause).1
      (big.advance setup turn.pause).1 _ := h.advance turn.pause
  have hhandled := hmoved.handleAll hevents
  have hcalls : (turn.events.map ((big.advance setup turn.pause).1.now, ·)).filter
        (among ·.2.uri) =
      ((turn.only among).events.map ((small.advance setup turn.pause).1.now, ·)).map
        (renameStamp names) := by
    have hstamps := congrArg (List.map ((big.advance setup turn.pause).1.now, ·)) hevents
    rw [List.filter_map, hmoved.now, List.map_map]
    rw [List.map_map] at hstamps
    exact hstamps
  constructor
  · rw [turnStamps, turnStamps, List.filter_append, List.filter_append, h.stamped, hcalls,
      hhandled.stamped, List.map_append, List.map_append, hpause, h.now, hhandled.now]
  · rw [advanceWith_state, advanceWith_state, hhandled.now]
    exact hhandled.fireBefore _

/-- In a run the same is handled of the documents, each event at the same
instant. -/
theorem stamps {turns : List Turn}
    (h : Shadowed among names small big (Scheduler.armMarks setup among (callEvents turns))) :
    (big.stamps setup turns).filter (among ·.2.uri) =
      (small.stamps setup (turns.map (Turn.only among))).map (renameStamp names) := by
  induction turns generalizing small big with
  | nil => rfl
  | cons turn rest ih =>
      rw [callEvents, List.flatMap_cons, Scheduler.armMarks_append, ← callEvents] at h
      obtain ⟨hstamps, hnext⟩ := h.turn
      rw [Timed.stamps, List.filter_append, hstamps, ih hnext, List.map_cons, Timed.stamps,
        List.map_append]
      rfl

end Shadowed

/-- Moments tell what a run does. -/
structure Recounts (setup : Setup Tree Metadata) (turns : List Turn)
    (moments : List (Moment Tree Metadata)) : Prop where
  calls : (moments.filter (·.event.isCall)).map Moment.stamp = callStamps 0 turns
  replies : (moments.filter (·.event.isCall)).map (·.reply) = (initial.run setup turns).2.1
  effects : moments.flatMap (·.effects) = (initial.run setup turns).2.2
  scheduler : (Scheduler.initial.handleAll setup (moments.map (·.event))).1 =
    (initial.run setup turns).1.scheduler

theorem calls_replies (setup : Setup Tree Metadata) (timed : Timed Tree Metadata)
    {events : List Event} (hcalls : ∀ event ∈ events, event.isCall = true) :
    ((timed.scheduler.timeline setup (events.map (timed.now, ·))).filter (·.event.isCall)).map
      (·.reply) = (timed.handleAll setup events).2.1 := by
  induction events generalizing timed with
  | nil => rfl
  | cons event rest ih =>
      have hrest := ih (timed.handle setup event).1
        fun other member => hcalls other (List.mem_cons_of_mem _ member)
      rw [List.map_cons, Scheduler.timeline, List.filter_cons,
        if_pos (by exact hcalls event List.mem_cons_self), List.map_cons]
      exact congrArg (_ :: ·) hrest

theorem fires_replies (setup : Setup Tree Metadata) (scheduler : Scheduler Tree Metadata)
    (alarms : List Alarm) :
    (scheduler.timeline setup (alarms.map Alarm.stamped)).filter (·.event.isCall) = [] := by
  refine List.filter_eq_nil_iff.mpr fun moment member => ?_
  obtain ⟨alarm, hevent⟩ := Scheduler.timeline_fires member
  simp [hevent, Alarm.fire, Event.isCall]

theorem timeline_replies (setup : Setup Tree Metadata) (timed : Timed Tree Metadata)
    (turns : List Turn) :
    ((timed.timeline setup turns).filter (·.event.isCall)).map (·.reply) =
      (timed.run setup turns).2.1 := by
  induction turns generalizing timed with
  | nil => rfl
  | cons turn rest ih =>
      have hstate := (turnStamps_reaches setup timed turn).1
      rw [timeline, stamps, Scheduler.timeline_append, hstate, List.filter_append, List.map_append,
        turn_timeline, List.filter_append, List.filter_append, fires_replies, fires_replies,
        List.nil_append, List.append_nil, calls_replies setup _ turn.events_isCall]
      exact congrArg (_ ++ ·) (ih (timed.advanceWith setup turn.pause turn.events).1)

theorem timeline_events (setup : Setup Tree Metadata) (scheduler : Scheduler Tree Metadata)
    (stamps : List (Nat × Event)) :
    (scheduler.timeline setup stamps).map (·.event) = stamps.map Prod.snd := by
  have hstamps := congrArg (List.map Prod.snd) (Scheduler.timeline_stamps setup scheduler stamps)
  rw [List.map_map] at hstamps
  exact hstamps

theorem timeline_handlings (setup : Setup Tree Metadata) (timed : Timed Tree Metadata)
    (turns : List Turn) :
    let moments := timed.timeline setup turns
    moments.map Moment.toHandling = timed.scheduler.log setup (moments.map (·.event)) := by
  intro moments
  have hevents : moments.map (·.event) = (timed.stamps setup turns).map Prod.snd :=
    timeline_events setup _ _
  rw [hevents]
  exact Scheduler.timeline_log setup _ _

theorem recounts_timeline (setup : Setup Tree Metadata) (turns : List Turn) :
    Recounts setup turns ((initial : Timed Tree Metadata).timeline setup turns) := by
  obtain ⟨hstate, heffects⟩ := stamps_reaches setup (initial : Timed Tree Metadata) turns
  refine ⟨timeline_calls setup turns, timeline_replies setup initial turns, ?_, ?_⟩
  · rw [← Scheduler.log_effects, ← Scheduler.timeline_log, List.flatMap_map] at heffects
    exact heffects
  · rw [timeline, timeline_events]
    exact hstate

end Timed

/-- What a scheduler shows of a document: its context, its timer, and its
diagnostics in the list that was handed on last. -/
structure Sight (Tree Metadata : Type) where
  context : Option (Context Tree Metadata)
  timer : Option Nat
  shown : List Diagnostic

def Sight.rename (names : Renaming) (sight : Sight Tree Metadata) : Sight Tree Metadata where
  context := sight.context.map (.rename names)
  timer := sight.timer.map names.generation
  shown := sight.shown

namespace Scheduler

variable {setup : Setup Tree Metadata} {uri : Uri} {names : Renaming} {shared whole : List Event}

/-- What is shown of a document after events. -/
def sight (setup : Setup Tree Metadata) (events : List Event) (uri : Uri) : Sight Tree Metadata :=
  let (scheduler, _, effects) := (initial : Scheduler Tree Metadata).handleAll setup events
  ⟨scheduler.store.get? uri, scheduler.timers.pending.get? uri,
    (lastPublished effects).filter (·.uri = uri)⟩

theorem Mirrors.sight_eq
    (hm : Mirrors (· = uri) names (initial.handleAll setup shared).1
      (initial.handleAll setup whole).1) :
    sight setup whole uri = (sight setup shared uri).rename names := by
  have hin : decide (uri = uri) = true := decide_eq_true rfl
  have hstore := hm.store uri hin
  simp only [sight, Sight.rename, hstore, hm.pending uri hin, lastPublished_filter,
    Store.diagnosticsOf, Option.map_map, Sight.mk.injEq, true_and]
  rfl

theorem initial_mirrors (among : Uri → Bool) (names : Renaming) :
    Mirrors among names (initial : Scheduler Tree Metadata) initial where
  store := fun _ _ => rfl
  pending := fun _ _ => rfl

/-- At any time the document is shown as in the run without the others. -/
theorem sight_take (hnames : Function.Injective names.generation)
    (hshared : whole.filter (·.uri = uri) = shared.map (Event.rename names))
    (harmed : Continues names.generation 1 1 (armMarks setup (· = uri) whole))
    (hparses : Continues names.identity 0 0
      (parseMarks (· = uri) ((initial : Scheduler Tree Metadata).log setup whole))) (count : Nat) :
    sight setup (whole.take count) uri = ((sight setup
      (shared.take ((whole.take count).countP (·.uri = uri))) uri).rename names :
        Sight Tree Metadata) := by
  let done := whole.take count
  have hsplit : whole = done ++ whole.drop count := (List.take_append_drop count whole).symm
  have hdone : done.filter (·.uri = uri) =
      (shared.take (done.countP (·.uri = uri))).map (Event.rename names) := by
    rw [List.map_take, ← hshared, List.countP_eq_length_filter]
    conv => rhs; rw [hsplit, List.filter_append]
    exact List.take_left.symm
  rw [hsplit, armMarks_append] at harmed
  rw [hsplit, log_append, parseMarks_append] at hparses
  exact ((initial_mirrors _ _).handleAll hnames hdone harmed.init hparses.init).1.sight_eq

end Scheduler

namespace Timed

/-- The numbers that a run gives to some documents, by those that it would give
to them alone. -/
theorem exists_names (setup : Setup Tree Metadata) (turns : List Turn) (among : Uri → Bool) :
    let stamps := (initial : Timed Tree Metadata).stamps setup turns
    ∃ names : Renaming, names.Ascends ∧
      stamps.filter (among ·.2.uri) =
        ((initial : Timed Tree Metadata).stamps setup (turns.map (Turn.only among))).map
          (renameStamp names) ∧
      Continues names.generation 1 1 (Scheduler.armMarks setup among (stamps.map Prod.snd)) ∧
      Continues names.identity 0 0 (Scheduler.parseMarks among
        ((Scheduler.initial : Scheduler Tree Metadata).log setup (stamps.map Prod.snd))) := by
  intro stamps
  let arms := Scheduler.armMarks setup among (callEvents turns)
  let parses := Scheduler.parseMarks among
    ((Scheduler.initial : Scheduler Tree Metadata).log setup (stamps.map Prod.snd))
  let names : Renaming := ⟨place (List.replicate 1 true ++ arms), place parses⟩
  have harms : Scheduler.armMarks setup among (stamps.map Prod.snd) = arms := by
    rw [← armMarks_calls, stamps_calls]
  have harmed : Continues names.generation 1 1 arms :=
    Continues.of_place fun k => (place_replicate_append 1 arms k).2
  have hparses : Continues names.identity 0 0 parses :=
    Continues.of_place fun k => by rw [Nat.zero_add, Nat.zero_add]
  have hstart : Shadowed among names (initial : Timed Tree Metadata) initial arms :=
    ⟨rfl, rfl, harmed⟩
  exact ⟨names, ⟨place_strictMono _, place_strictMono _⟩, hstart.stamps, harms ▸ harmed, hparses⟩

/-- A document is handled as if it were the only one. In the run that has the
calls of this document only, with the same pauses, the same is handled of it at
the same instants, with the same replies and the same work of the pipeline, and
at any time the same is shown of it. Other numbers are given to timers, trees
and metadata, in the same order. What is handled of the others brings no work
on this document. Nothing is asked of the engine and the extractor. -/
theorem documents_isolated (setup : Setup Tree Metadata) (turns : List Turn) (uri : Uri) :
    let whole := (initial : Timed Tree Metadata).timeline setup turns
    let alone := (initial : Timed Tree Metadata).timeline setup (turns.map (Turn.only (· = uri)))
    (Recounts setup turns whole ∧ Recounts setup (turns.map (Turn.only (· = uri))) alone) ∧
      (∀ moment ∈ whole, moment.work = [] ∨ ∃ snapshot kind, snapshot.uri = moment.event.uri ∧
        moment.work = (setup.pipeline.run snapshot kind).2) ∧
      ∃ names : Renaming, names.Ascends ∧
        let mine := whole.filter (·.event.uri = uri)
        mine.map Moment.stamp = alone.map (renameStamp names ·.stamp) ∧
          mine.map (·.reply) = alone.map (Reply.rename names ·.reply) ∧
          mine.map (·.work) = alone.map (·.work) ∧
          ∀ count,
            let earlier := whole.take count
            let twin := alone.take (earlier.countP (·.event.uri = uri))
            Scheduler.sight setup (earlier.map (·.event)) uri =
              (Scheduler.sight setup (twin.map (·.event)) uri).rename names := by
  intro whole alone
  obtain ⟨names, hascends, hstamps, harmed, hparses⟩ := exists_names setup turns (· = uri)
  have hwhole : whole.map Moment.stamp = (initial : Timed Tree Metadata).stamps setup turns :=
    Scheduler.timeline_stamps setup _ _
  have halone : alone.map Moment.stamp =
      (initial : Timed Tree Metadata).stamps setup (turns.map (Turn.only (· = uri))) :=
    Scheduler.timeline_stamps setup _ _
  have htrace : whole.map (·.event) = (initial.stamps setup turns).map Prod.snd :=
    timeline_events setup _ _
  have hlog : whole.map Moment.toHandling = Scheduler.initial.log setup (whole.map (·.event)) :=
    timeline_handlings setup initial turns
  have hlone : alone.map Moment.toHandling = Scheduler.initial.log setup (alone.map (·.event)) :=
    timeline_handlings setup initial _
  rw [← htrace] at harmed hparses
  rw [← hwhole, ← halone, List.filter_map, List.map_map] at hstamps
  have hshared : (whole.map (·.event)).filter (·.uri = uri) =
      (alone.map (·.event)).map (Event.rename names) := by
    have hevents := congrArg (List.map Prod.snd) hstamps
    rw [List.map_map, List.map_map] at hevents
    rw [List.filter_map, List.map_map]
    exact hevents
  obtain ⟨_, hreplies, hworks⟩ := (Scheduler.initial_mirrors _ names).handleAll
    hascends.generation.injective hshared harmed hparses
  rw [← hlog, ← hlone, List.filter_map, List.map_map, List.map_map] at hreplies hworks
  refine ⟨⟨recounts_timeline setup turns, recounts_timeline setup _⟩, ?_, names, hascends, hstamps,
    hreplies, hworks, ?_⟩
  · intro moment member
    have hentry := List.mem_map_of_mem (f := Moment.toHandling) member
    rw [hlog] at hentry
    exact Scheduler.log_work_owned setup _ hentry
  · intro count
    have hsight := Scheduler.sight_take hascends.generation.injective hshared harmed hparses count
    rw [← List.map_take, List.countP_map, ← List.map_take] at hsight
    exact hsight

end Timed

end CelWatch
