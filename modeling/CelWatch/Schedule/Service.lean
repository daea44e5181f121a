import CelWatch.Schedule.Clock

/-!
A scheduler as its callers reach it. A scheduler that has stopped takes no
more events.
-/

namespace CelWatch

inductive SchedulerError where
  | stopped
deriving DecidableEq, Repr

def SchedulerError.message : SchedulerError → String
  | .stopped => "parse scheduler is not running"

inductive Service (Tree Metadata : Type) where
  | running (timed : Timed Tree Metadata)
  | stopped

/-- What a service does when time moves on and events are handed over: the
replies, or the reason why there are none, and the effects. -/
structure Progress (Tree Metadata : Type) where
  service : Service Tree Metadata
  replies : Except SchedulerError (List (Reply Tree Metadata))
  effects : List Effect

namespace Service

variable {Tree Metadata : Type}

def start : Service Tree Metadata := .running .initial

/-- Moves the time on and hands over events at the new instant. -/
def advanceWith (setup : Setup Tree Metadata) (service : Service Tree Metadata) (duration : Nat)
    (events : List Event) : Progress Tree Metadata :=
  match service with
  | .running timed =>
    let (timed, replies, effects) := timed.advanceWith setup duration events
    ⟨.running timed, .ok replies, effects⟩
  | .stopped => ⟨.stopped, if events.isEmpty then .ok [] else .error .stopped, []⟩

end Service

end CelWatch
