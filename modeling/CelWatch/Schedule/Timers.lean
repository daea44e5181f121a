import CelWatch.Registry
import CelWatch.Uri.Basic

/-!
At most one pending timer for each document. Every timer that is armed gets a
generation of its own, and a fire is taken only when its generation is the
pending one: a timer that was cancelled or replaced fires in vain.
-/

namespace CelWatch

structure Timers where
  /-- The generation of the pending timer of a document. -/
  pending : Registry Uri Nat
  /-- The number of timers armed so far, which is the last generation given. -/
  armed : Nat

namespace Timers

def initial : Timers := ⟨.empty, 0⟩

/-- Arms the timer of a document in place of the pending one. -/
def arm (timers : Timers) (uri : Uri) : Timers :=
  ⟨timers.pending.insert uri (timers.armed + 1), timers.armed + 1⟩

def cancel (timers : Timers) (uri : Uri) : Timers :=
  { timers with pending := timers.pending.erase uri }

def isPending (timers : Timers) (uri : Uri) : Bool :=
  timers.pending.contains uri

/-- The timers after a fire; `none` when the fire is in vain. -/
def take? (timers : Timers) (uri : Uri) (generation : Nat) : Option Timers :=
  if timers.pending.get? uri = some generation then some (timers.cancel uri) else none

end Timers

end CelWatch
