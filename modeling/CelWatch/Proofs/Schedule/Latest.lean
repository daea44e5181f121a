import CelWatch.Proofs.Schedule.Debounce

/-!
Callers that ask for immediate parses only of what they submitted last. Then
the store of a scheduler has no other snapshot than the one submitted last, so
an answer is for the snapshot that is stored, and results that are fresh are
those of the latest text.
-/

namespace CelWatch

variable {Tree Metadata : Type}

/-- An immediate parse is asked for the snapshot that was submitted last. -/
def AsksLatest (history : History) : Event → Prop
  | .parseNow snapshot => (history snapshot.uri).head? = some snapshot
  | .edit _ | .close _ | .cached _ | .timerFired _ _ => True

def ParsesLatest (events : List Event) : Prop := Along AsksLatest .empty events

theorem ParsesLatest.of_calls {events : List Event}
    (h : ParsesLatest (events.filter Event.isCall)) : ParsesLatest events :=
  Along.of_calls (fun _ _ _ => trivial) h

namespace History

end History

namespace Scheduler

variable {setup : Setup Tree Metadata} {scheduler next : Scheduler Tree Metadata}
  {history : History} {event : Event} {reply : Reply Tree Metadata} {effects : List Effect}

/-- The stored snapshots are those submitted last. -/
def Latest (setup : Setup Tree Metadata) (history : History)
    (scheduler : Scheduler Tree Metadata) : Prop :=
  ∀ uri kind, setup.config.allowList.classify uri = some kind →
    (scheduler.store.get? uri).map Context.snapshot = (history uri).head?

theorem Move.latest (h : Move setup scheduler event next reply effects)
    (hasks : AsksLatest history event) (hlatest : scheduler.Latest setup history) :
    next.Latest setup (history.record event) := by
  intro uri kind hkind
  by_cases huri : uri = event.uri
  · subst huri
    have hbefore := hlatest _ kind hkind
    have hasked : ∀ snapshot, event = .parseNow snapshot →
        (scheduler.store.get? event.uri).map Context.snapshot =
          (history.record event event.uri).head? := by
      rintro snapshot rfl
      have hrecord := history.record_request (rfl : (Event.parseNow snapshot).request? = _)
      rw [hrecord, List.head?_cons]
      exact hbefore.trans hasks
    cases h with
    | ignore hnone => cases hnone.symm.trans hkind
    | @edit snapshot _ _ =>
        have hrecord := history.record_request (rfl : (Event.edit snapshot).request? = _)
        rw [hrecord]
        simp [Event.uri, received_snapshot]
    | close =>
        simp [Event.uri, History.record]
    | fire _ _ hstored =>
        rw [Event.uri, hstored] at hbefore
        simpa [Event.uri, keep, History.record] using hbefore
    | decline hnone => cases hnone.symm.trans hkind
    | @refresh snapshot _ _ _ =>
        have hrecord := history.record_request (rfl : (Event.parseNow snapshot).request? = _)
        rw [hrecord]
        simp [Event.uri, keep, Context.unparsed]
    | serve _ _ _ _ => exact hasked _ rfl
    | serveOlder _ _ _ _ => exact hasked _ rfl
    | supersede _ _ _ _ => exact hasked _ rfl
    | lookUp | stale _ | idle _ _ => exact hbefore
  · rw [h.get?_of_ne huri, history.record_of_ne huri]
    exact hlatest uri kind hkind

end Scheduler

end CelWatch
