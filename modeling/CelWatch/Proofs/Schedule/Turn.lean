import CelWatch.Proofs.Schedule.Move
import CelWatch.Schedule.Clock

/-!
Runs of a scheduler in time. Callers take turns: time passes, and then they
hand over calls. Alarms fire in between, so a run in time is a run over the
calls with fires mixed in, and what holds of every run holds in time.
-/

namespace CelWatch

variable {Tree Metadata : Type}

/-- What a caller asks of a scheduler. Only alarms make fires. -/
inductive Call where
  | edit (uri : Uri) (text : String) (version : Int)
  | close (uri : Uri)
  | parseNow (uri : Uri) (text : String) (version : Int)
  | cached (uri : Uri)
deriving DecidableEq, Repr

def Call.event : Call → Event
  | .edit uri text version => .edit (.ofText uri text version)
  | .close uri => .close uri
  | .parseNow uri text version => .parseNow (.ofText uri text version)
  | .cached uri => .cached uri

/-- A pause in milliseconds, and the calls that come at its end. -/
structure Turn where
  pause : Nat
  calls : List Call
deriving DecidableEq, Repr

def Turn.events (turn : Turn) : List Event := turn.calls.map Call.event

/-- Time passes and nobody calls. -/
def Turn.quiet (pause : Nat) : Turn := ⟨pause, []⟩

/-- The time that pauses take together. -/
def totalPause (pauses : List Nat) : Nat := pauses.foldr (· + ·) 0

/-- The calls of all turns in their order. -/
def callEvents (turns : List Turn) : List Event := turns.flatMap Turn.events

/-- The calls with the instants at which they are handed over. -/
def callStamps (now : Nat) : List Turn → List (Nat × Event)
  | [] => []
  | turn :: rest =>
    turn.events.map (now + turn.pause, ·) ++ callStamps (now + turn.pause) rest

/-- Whether an event comes from a caller. -/
def Event.isCall : Event → Bool
  | .timerFired _ _ => false
  | .edit _ | .close _ | .parseNow _ | .cached _ => true

def Alarm.fire (alarm : Alarm) : Event := .timerFired alarm.uri alarm.generation

def Alarm.stamped (alarm : Alarm) : Nat × Event := (alarm.due, alarm.fire)

theorem Call.event_isCall (call : Call) : call.event.isCall = true := by
  cases call with
  | _ => rfl

theorem Turn.events_isCall (turn : Turn) : ∀ event ∈ turn.events, event.isCall = true := by
  intro event member
  obtain ⟨call, _, rfl⟩ := List.mem_map.mp member
  exact call.event_isCall

theorem Turn.filter_events (turn : Turn) : turn.events.filter Event.isCall = turn.events :=
  List.filter_eq_self.mpr turn.events_isCall

theorem filter_fires (alarms : List Alarm) :
    (alarms.map Alarm.fire).filter Event.isCall = [] := by
  refine List.filter_eq_nil_iff.mpr ?_
  intro event member
  obtain ⟨alarm, _, rfl⟩ := List.mem_map.mp member
  exact Bool.false_ne_true

namespace Scheduler

variable {setup : Setup Tree Metadata} {scheduler next : Scheduler Tree Metadata}
  {effects : List Effect}

/-- What handling events leads to, whatever the replies. -/
def Reaches (setup : Setup Tree Metadata) (scheduler : Scheduler Tree Metadata)
    (events : List Event) (last : Scheduler Tree Metadata) (effects : List Effect) : Prop :=
  (scheduler.handleAll setup events).1 = last ∧ (scheduler.handleAll setup events).2.2 = effects

theorem Reaches.append {last : Scheduler Tree Metadata} {first second : List Event}
    {later : List Effect} (hfirst : scheduler.Reaches setup first next effects)
    (hsecond : next.Reaches setup second last later) :
    scheduler.Reaches setup (first ++ second) last (effects ++ later) := by
  obtain ⟨rfl, rfl⟩ := hfirst
  obtain ⟨rfl, rfl⟩ := hsecond
  rw [Reaches, handleAll_append]
  exact ⟨rfl, rfl⟩

end Scheduler

namespace Timed

/-- Takes turns one after the other. -/
def run (setup : Setup Tree Metadata) (timed : Timed Tree Metadata) :
    List Turn → Timed Tree Metadata × List (Reply Tree Metadata) × List Effect
  | [] => (timed, [], [])
  | turn :: rest =>
    let (next, replies, effects) := timed.advanceWith setup turn.pause turn.events
    let (last, moreReplies, later) := next.run setup rest
    (last, replies ++ moreReplies, effects ++ later)

theorem run_append (setup : Setup Tree Metadata) (timed : Timed Tree Metadata)
    (first second : List Turn) :
    timed.run setup (first ++ second) =
      let (middle, replies, effects) := timed.run setup first
      let (last, moreReplies, later) := middle.run setup second
      (last, replies ++ moreReplies, effects ++ later) := by
  induction first generalizing timed with
  | nil => rfl
  | cons turn rest ih =>
      simp only [List.cons_append, run, ih, List.append_assoc]

/-- Handling events in time, and what it leads to without time. -/
theorem handleAll_reaches (setup : Setup Tree Metadata) (timed : Timed Tree Metadata)
    (events : List Event) :
    timed.scheduler.Reaches setup events (timed.handleAll setup events).1.scheduler
      (timed.handleAll setup events).2.2 := by
  induction events generalizing timed with
  | nil => exact ⟨rfl, rfl⟩
  | cons event rest ih =>
      obtain ⟨hlast, hlater⟩ := ih (timed.handle setup event).1
      exact ⟨hlast, congrArg ((timed.handle setup event).2.2 ++ ·) hlater⟩

/-- The alarms that come before an instant. -/
def dueBefore (timed : Timed Tree Metadata) (limit : Nat) : List Alarm :=
  timed.alarms.filter (·.due < limit)

/-- The state without these alarms. -/
def stripped (timed : Timed Tree Metadata) (limit : Nat) : Timed Tree Metadata :=
  { timed with alarms := timed.alarms.filter fun alarm => !(alarm.due < limit) }

theorem fireBefore_state (setup : Setup Tree Metadata) (timed : Timed Tree Metadata)
    (limit : Nat) :
    (timed.fireBefore setup limit).1 =
      ((timed.stripped limit).handleAll setup ((timed.dueBefore limit).map Alarm.fire)).1 := rfl

theorem fireBefore_reaches (setup : Setup Tree Metadata) (timed : Timed Tree Metadata)
    (limit : Nat) :
    timed.scheduler.Reaches setup ((timed.dueBefore limit).map Alarm.fire)
      (timed.fireBefore setup limit).1.scheduler (timed.fireBefore setup limit).2 :=
  handleAll_reaches setup (timed.stripped limit) ((timed.dueBefore limit).map Alarm.fire)

/-- What is handled in a turn, each event with its instant: the fires that come
before the calls, the calls, and the fires that are due at the instant of the
calls. -/
def turnStamps (setup : Setup Tree Metadata) (timed : Timed Tree Metadata) (turn : Turn) :
    List (Nat × Event) :=
  let moved := (timed.advance setup turn.pause).1
  let handled := (moved.handleAll setup turn.events).1
  (timed.dueBefore (timed.now + turn.pause)).map Alarm.stamped ++
    turn.events.map (moved.now, ·) ++ (handled.dueBefore (handled.now + 1)).map Alarm.stamped

def stamps (setup : Setup Tree Metadata) (timed : Timed Tree Metadata) :
    List Turn → List (Nat × Event)
  | [] => []
  | turn :: rest =>
    timed.turnStamps setup turn ++
      (timed.advanceWith setup turn.pause turn.events).1.stamps setup rest

theorem map_snd_stamped (alarms : List Alarm) :
    (alarms.map Alarm.stamped).map Prod.snd = alarms.map Alarm.fire := by
  rw [List.map_map]
  rfl

theorem map_snd_calls (instant : Nat) (events : List Event) :
    (events.map (instant, ·)).map Prod.snd = events := by
  rw [List.map_map]
  exact List.map_id events

/-- A turn is a run over its calls with fires before and after. -/
theorem turnStamps_reaches (setup : Setup Tree Metadata) (timed : Timed Tree Metadata)
    (turn : Turn) :
    let (last, _, effects) := timed.advanceWith setup turn.pause turn.events
    timed.scheduler.Reaches setup ((timed.turnStamps setup turn).map Prod.snd) last.scheduler
      effects := by
  let moved := (timed.advance setup turn.pause).1
  let handled := (moved.handleAll setup turn.events).1
  have hbefore := fireBefore_reaches setup { timed with now := timed.now + turn.pause }
    (timed.now + turn.pause)
  have hduring := handleAll_reaches setup moved turn.events
  have hafter := fireBefore_reaches setup handled (handled.now + 1)
  rw [turnStamps, List.map_append, List.map_append, map_snd_stamped, map_snd_stamped,
    map_snd_calls]
  exact (hbefore.append hduring).append hafter

theorem turnStamps_calls (setup : Setup Tree Metadata) (timed : Timed Tree Metadata)
    (turn : Turn) :
    ((timed.turnStamps setup turn).map Prod.snd).filter Event.isCall = turn.events := by
  rw [turnStamps, List.map_append, List.map_append, map_snd_stamped, map_snd_stamped,
    map_snd_calls, List.filter_append, List.filter_append, filter_fires, filter_fires,
    turn.filter_events, List.nil_append, List.append_nil]

theorem stamps_reaches (setup : Setup Tree Metadata) (timed : Timed Tree Metadata)
    (turns : List Turn) :
    let (last, _, effects) := timed.run setup turns
    timed.scheduler.Reaches setup ((timed.stamps setup turns).map Prod.snd) last.scheduler
      effects := by
  induction turns generalizing timed with
  | nil => exact ⟨rfl, rfl⟩
  | cons turn rest ih =>
      have hturn := turnStamps_reaches setup timed turn
      have hrest := ih (timed.advanceWith setup turn.pause turn.events).1
      rw [stamps, List.map_append]
      exact hturn.append hrest

theorem stamps_calls (setup : Setup Tree Metadata) (timed : Timed Tree Metadata)
    (turns : List Turn) :
    ((timed.stamps setup turns).map Prod.snd).filter Event.isCall = callEvents turns := by
  induction turns generalizing timed with
  | nil => rfl
  | cons turn rest ih =>
      rw [stamps, List.map_append, List.filter_append, turnStamps_calls, ih, callEvents,
        callEvents, List.flatMap_cons]

/-- A run in time is a run over its calls with fires mixed in. -/
theorem run_reaches (setup : Setup Tree Metadata) (timed : Timed Tree Metadata)
    (turns : List Turn) :
    let (last, _, effects) := timed.run setup turns
    ∃ trace, trace.filter Event.isCall = callEvents turns ∧
      timed.scheduler.Reaches setup trace last.scheduler effects :=
  ⟨_, stamps_calls setup timed turns, stamps_reaches setup timed turns⟩

end Timed

end CelWatch
