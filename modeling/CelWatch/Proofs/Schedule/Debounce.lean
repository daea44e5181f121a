import CelWatch.Proofs.Schedule.Alarm
import CelWatch.Proofs.Schedule.Eager

/-!
Debouncing delays results and changes none. A scheduler in time handles the
calls with fires mixed in, and fires change nothing for the rules of callers
and for a scheduler without timers. Once the delay after the last call is over
no timer is pending, and then a scheduler that debounces and caches holds what
one holds that does neither.
-/

namespace CelWatch

variable {Tree Metadata : Type}

/-- A condition that asks nothing of fires holds along a run when it holds
along its calls. -/
theorem Along.of_calls {condition : History → Event → Prop}
    (hfire : ∀ history uri generation, condition history (.timerFired uri generation))
    {history : History} {events : List Event}
    (h : Along condition history (events.filter Event.isCall)) :
    Along condition history events := by
  induction events generalizing history with
  | nil => trivial
  | cons event rest ih =>
      cases event with
      | timerFired uri generation => exact ⟨hfire history uri generation, ih h⟩
      | edit _ | close _ | parseNow _ | cached _ => exact ⟨h.1, ih h.2⟩

theorem TextsAgree.of_calls {events : List Event}
    (h : TextsAgree (events.filter Event.isCall)) : TextsAgree events :=
  Along.of_calls (fun _ _ _ _ hrequest => nomatch hrequest) h

theorem EditsAscend.of_calls {events : List Event}
    (h : EditsAscend (events.filter Event.isCall)) : EditsAscend events :=
  Along.of_calls (fun _ _ _ => trivial) h

/-- Without timers a fire does nothing. -/
theorem Eager.run_calls (setup : Setup Tree Metadata) (events : List Event) :
    Eager.run setup (events.filter Event.isCall) = Eager.run setup events := by
  rw [Eager.run, Eager.run, List.foldl_filter]
  congr
  funext eager event
  cases event with
  | timerFired _ _ => rfl
  | edit _ | close _ | parseNow _ | cached _ => rfl

namespace Scheduler

/-- Where no timer waits, both schedulers have handed on the same
diagnostics. -/
theorem published_eq_of_idle {events : List Event} (setup : Setup Tree Metadata)
    (hagree : TextsAgree events) (hascend : EditsAscend events)
    (hidle : ∀ uri, (initial.handleAll setup events).1.timers.pending.get? uri = none) :
    lastPublished ((initial : Scheduler Tree Metadata).handleAll setup events).2.2 =
      (Eager.run setup events).published := by
  have hkeys := (handleAll_follows setup hagree hascend).keys_eq
  have hsame := contents_eq_of_idle setup hagree hascend hidle
  rw [handleAll_lastPublished, (Eager.run_settled setup events).published_eq,
    ← Registry.map_values_eq hkeys hsame, List.flatMap_map]
  rfl

end Scheduler

namespace Timed

open Scheduler (plainTexts page)

/-- A scheduler that debounces refines one that parses at once. Callers may
take any turns, with edits of ascending versions between two closes of a
document and equal texts for equal versions. When the delay after their last
call is over, both schedulers track the same documents with the same contents,
and they have handed on the same list last. -/
theorem debounced_refines_eager (setup : Setup Tree Metadata) (turns : List Turn)
    (pauses : List Nat) (hagree : TextsAgree (callEvents turns))
    (hascend : EditsAscend (callEvents turns))
    (hquiet : setup.config.debounce ≤ totalPause pauses) :
    let outcome := initial.run setup (turns ++ pauses.map Turn.quiet)
    let eager := Eager.run setup (callEvents turns)
    (∀ uri, (outcome.1.scheduler.store.get? uri).map Context.contents = eager.store.get? uri) ∧
      lastPublished outcome.2.2 = eager.published := by
  obtain ⟨trace, hcalls, hreaches⟩ :=
    run_reaches setup (initial : Timed Tree Metadata) (turns ++ pauses.map Turn.quiet)
  change Scheduler.initial.Reaches setup trace _ _ at hreaches
  obtain ⟨hstate, heffects⟩ := hreaches
  have hsilent : callEvents (pauses.map Turn.quiet) = [] := by
    simp [callEvents, Turn.events, Turn.quiet]
  have htrace : trace.filter Event.isCall = callEvents turns := by
    rw [hcalls, callEvents, List.flatMap_append, ← callEvents, ← callEvents, hsilent,
      List.append_nil]
  have hagree' : TextsAgree trace := .of_calls (htrace ▸ hagree)
  have hascend' : EditsAscend trace := .of_calls (htrace ▸ hascend)
  have hidle : ∀ uri,
      (Scheduler.initial.handleAll setup trace).1.timers.pending.get? uri = none := by
    rw [hstate]
    exact run_idle setup turns hquiet
  have hcontents := Scheduler.contents_eq_of_idle setup hagree' hascend' hidle
  have hpublished := Scheduler.published_eq_of_idle setup hagree' hascend' hidle
  rw [hstate, ← Eager.run_calls, htrace] at hcontents
  rw [heffects, ← Eager.run_calls, htrace] at hpublished
  exact ⟨hcontents, hpublished⟩

/-- The fire of the first edit comes after the second, and a request for the
first text is superseded. The second text is empty and has an error. -/
def overtaken : List Turn := [
  ⟨0, [.edit page "1" 1]⟩,
  ⟨defaultDebounce, [.edit page "" 2, .parseNow page "1" 1]⟩]

theorem debounced_refines_eager_overtaken :
    (TextsAgree (callEvents overtaken) ∧ EditsAscend (callEvents overtaken) ∧
      plainTexts.config.debounce ≤ totalPause [1, defaultDebounce]) ∧
      let outcome := initial.run plainTexts (overtaken ++ [1, defaultDebounce].map Turn.quiet)
      (∃ context, outcome.1.scheduler.store.get? page = some context ∧
        context.contents.tree = none ∧ context.contents.parsedVersion = some 2) ∧
      (lastPublished outcome.2.2).length = 1 := by
  have hagree : TextsAgree (callEvents overtaken) := by decide
  have hascend : EditsAscend (callEvents overtaken) := by decide
  have hquiet : plainTexts.config.debounce ≤ totalPause [1, defaultDebounce] := by decide
  obtain ⟨hcontents, hpublished⟩ :=
    debounced_refines_eager plainTexts overtaken [1, defaultDebounce] hagree hascend hquiet
  obtain ⟨context, hstored, hcontext⟩ := Option.map_eq_some_iff.mp (hcontents page)
  refine ⟨⟨hagree, hascend, hquiet⟩, ⟨context, hstored, ?_, ?_⟩, ?_⟩
  · rw [hcontext]
    rfl
  · rw [hcontext]
    rfl
  · rw [hpublished]
    rfl

end Timed

end CelWatch
