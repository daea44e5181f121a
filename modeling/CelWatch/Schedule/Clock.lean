import CelWatch.Schedule.Scheduler

/-!
A scheduler in time. Time is counted in milliseconds and moves only when it is
told to. A timer that is armed at an instant fires when the delay is over; a
fire waits until the events handed over at its instant are handled.
-/

namespace CelWatch

/-- A running timer. -/
structure Alarm where
  uri : Uri
  generation : Nat
  /-- The instant at which it fires. -/
  due : Nat
deriving DecidableEq, Repr

/-- A scheduler with the time and the running timers. Timers that were
cancelled run on and fire in vain. -/
structure Timed (Tree Metadata : Type) where
  scheduler : Scheduler Tree Metadata
  now : Nat
  /-- In the order in which they were armed, which is that of their instants. -/
  alarms : List Alarm

namespace Timed

variable {Tree Metadata : Type}

def initial : Timed Tree Metadata := ⟨.initial, 0, []⟩

/-- The timer that an effect starts. -/
def alarm? (delay now : Nat) : Effect → Option Alarm
  | .armed uri generation => some ⟨uri, generation, now + delay⟩
  | _ => none

/-- Handles an event at the present instant. -/
def handle (setup : Setup Tree Metadata) (timed : Timed Tree Metadata) (event : Event) :
    Timed Tree Metadata × Reply Tree Metadata × List Effect :=
  let (scheduler, reply, effects) := timed.scheduler.step setup event
  let started := effects.filterMap (alarm? setup.config.debounce timed.now)
  (⟨scheduler, timed.now, timed.alarms ++ started⟩, reply, effects)

/-- Handles events one after the other. -/
def handleAll (setup : Setup Tree Metadata) (timed : Timed Tree Metadata) :
    List Event → Timed Tree Metadata × List (Reply Tree Metadata) × List Effect
  | [] => (timed, [], [])
  | event :: rest =>
    let (next, reply, effects) := timed.handle setup event
    let (last, replies, later) := next.handleAll setup rest
    (last, reply :: replies, effects ++ later)

/-- Handles the fires of the timers whose instants come before `limit`. -/
def fireBefore (setup : Setup Tree Metadata) (timed : Timed Tree Metadata) (limit : Nat) :
    Timed Tree Metadata × List Effect :=
  let due := timed.alarms.filter (·.due < limit)
  let left := timed.alarms.filter fun alarm => !(alarm.due < limit)
  let fires := due.map fun alarm => Event.timerFired alarm.uri alarm.generation
  let (last, _, effects) := { timed with alarms := left }.handleAll setup fires
  (last, effects)

/-- Handles the fires of all timers whose instants have come. -/
def settle (setup : Setup Tree Metadata) (timed : Timed Tree Metadata) :
    Timed Tree Metadata × List Effect :=
  timed.fireBefore setup (timed.now + 1)

/-- Moves the time on; timers that are due at the new instant wait. -/
def advance (setup : Setup Tree Metadata) (timed : Timed Tree Metadata) (duration : Nat) :
    Timed Tree Metadata × List Effect :=
  { timed with now := timed.now + duration }.fireBefore setup (timed.now + duration)

/-- Moves the time on, hands over events at the new instant, and then lets the
timers fire that are due. -/
def advanceWith (setup : Setup Tree Metadata) (timed : Timed Tree Metadata) (duration : Nat)
    (events : List Event) : Timed Tree Metadata × List (Reply Tree Metadata) × List Effect :=
  let (moved, before) := timed.advance setup duration
  let (handled, replies, during) := moved.handleAll setup events
  let (settled, fired) := handled.settle setup
  (settled, replies, before ++ during ++ fired)

end Timed

end CelWatch
