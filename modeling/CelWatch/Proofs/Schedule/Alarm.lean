import CelWatch.Proofs.Schedule.Generation
import CelWatch.Proofs.Schedule.Turn

/-!
Every pending timer has an alarm that is still to come, and it comes at the
latest when the delay after the last call is over. Alarms without a pending
timer may be left; they fire in vain. Where no time passes none of them comes,
and a run is just its calls.
-/

namespace CelWatch

variable {Tree Metadata : Type}

namespace Scheduler

variable {setup : Setup Tree Metadata} {scheduler next : Scheduler Tree Metadata} {event : Event}
  {reply : Reply Tree Metadata} {effects : List Effect} {uri : Uri} {generation : Nat}

/-- A fire leaves no timer with its generation. -/
theorem Move.fired_not_pending
    (h : Move setup scheduler (.timerFired uri generation) next reply effects) :
    next.timers.pending.get? uri ≠ some generation := by
  intro hpending
  cases h with
  | stale hold => exact hold hpending
  | idle _ _ => exact (Registry.get?_erase_eq_some hpending).1 rfl
  | fire _ _ _ => exact (Registry.get?_erase_eq_some hpending).1 rfl

/-- Only calls start timers. -/
theorem Move.not_armed_of_fire {fired : Uri} {number : Nat}
    (h : Move setup scheduler (.timerFired fired number) next reply effects) :
    .armed uri generation ∉ effects := by
  intro harmed
  obtain ⟨_, _, hevent, _⟩ := h.armed_iff.mp harmed
  cases hevent

end Scheduler

namespace Timed

variable {setup : Setup Tree Metadata} {timed : Timed Tree Metadata} {events : List Event}
  {alarm : Alarm} {limit duration deadline : Nat}

theorem handle_alarms (setup : Setup Tree Metadata) (timed : Timed Tree Metadata)
    (event : Event) :
    (timed.handle setup event).1.alarms = timed.alarms ++
      (timed.scheduler.step setup event).2.2.filterMap
        (alarm? setup.config.debounce timed.now) := rfl

def Covered (timed : Timed Tree Metadata) : Prop :=
  ∀ uri generation, timed.scheduler.timers.pending.get? uri = some generation →
    .timerFired uri generation ∈ timed.alarms.map Alarm.fire

theorem Covered.handle (h : timed.Covered) (event : Event) :
    (timed.handle setup event).1.Covered := by
  intro uri generation hpending
  have hmove := Scheduler.step_move setup timed.scheduler event
  rw [handle_alarms, List.map_append, List.mem_append]
  rcases hmove.pending_or_armed hpending with hbefore | harmed
  · exact .inl (h uri generation hbefore)
  · have hstarted := List.mem_filterMap.mpr
      ⟨_, harmed, (rfl : alarm? setup.config.debounce timed.now _ = some _)⟩
    exact .inr (List.mem_map_of_mem hstarted)

theorem Covered.handleAll (h : timed.Covered) (events : List Event) :
    (timed.handleAll setup events).1.Covered := by
  induction events generalizing timed with
  | nil => exact h
  | cons event rest ih => exact ih (h.handle event)

/-- The alarms that events start come last, when the delay is over. -/
theorem handleAll_alarms (setup : Setup Tree Metadata) (timed : Timed Tree Metadata)
    (events : List Event) :
    ∃ started, (timed.handleAll setup events).1.alarms = timed.alarms ++ started ∧
      ∀ alarm ∈ started, alarm.due = timed.now + setup.config.debounce := by
  induction events generalizing timed with
  | nil => exact ⟨[], (List.append_nil _).symm, fun _ member => nomatch member⟩
  | cons event rest ih =>
      obtain ⟨later, hlater, hdue⟩ := ih (timed.handle setup event).1
      rw [handle_alarms, List.append_assoc] at hlater
      refine ⟨_, hlater, ?_⟩
      intro alarm member
      rcases List.mem_append.mp member with hstarted | hrest
      · obtain ⟨effect, _, hstart⟩ := List.mem_filterMap.mp hstarted
        cases effect with
        | armed uri generation =>
            obtain rfl := Option.some.inj hstart
            rfl
        | _ => cases hstart
      · exact hdue alarm hrest

theorem handleAll_due (h : alarm ∈ (timed.handleAll setup events).1.alarms) :
    alarm ∈ timed.alarms ∨ alarm.due = timed.now + setup.config.debounce := by
  obtain ⟨started, halarms, hdue⟩ := handleAll_alarms setup timed events
  rw [halarms] at h
  rcases List.mem_append.mp h with hold | hstarted
  · exact .inl hold
  · exact .inr (hdue alarm hstarted)

theorem handleAll_now (setup : Setup Tree Metadata) (timed : Timed Tree Metadata)
    (events : List Event) : (timed.handleAll setup events).1.now = timed.now := by
  induction events generalizing timed with
  | nil => rfl
  | cons event rest ih => exact ih (timed.handle setup event).1

theorem handle_fire_alarms (setup : Setup Tree Metadata) (timed : Timed Tree Metadata)
    (fired : Alarm) : (timed.handle setup fired.fire).1.alarms = timed.alarms := by
  have hmove := Scheduler.step_move setup timed.scheduler fired.fire
  have hnone : (timed.scheduler.step setup fired.fire).2.2.filterMap
      (alarm? setup.config.debounce timed.now) = [] := by
    refine List.filterMap_eq_nil_iff.mpr ?_
    intro effect member
    cases effect with
    | armed uri generation => exact absurd member hmove.not_armed_of_fire
    | _ => rfl
  rw [handle_alarms, hnone, List.append_nil]

theorem handleAll_fires_alarms (setup : Setup Tree Metadata) (timed : Timed Tree Metadata)
    (fired : List Alarm) :
    (timed.handleAll setup (fired.map Alarm.fire)).1.alarms = timed.alarms := by
  induction fired generalizing timed with
  | nil => rfl
  | cons first rest ih =>
      exact (ih (timed.handle setup first.fire).1).trans (handle_fire_alarms setup timed first)

/-- What is pending after fires was pending before and is none of the fired
timers. -/
theorem handleAll_fires_pending {fired : List Alarm} {uri : Uri} {generation : Nat}
    (h : (timed.handleAll setup (fired.map Alarm.fire)).1.scheduler.timers.pending.get? uri =
      some generation) :
    timed.scheduler.timers.pending.get? uri = some generation ∧
      .timerFired uri generation ∉ fired.map Alarm.fire := by
  induction fired generalizing timed with
  | nil => exact ⟨h, List.not_mem_nil⟩
  | cons first rest ih =>
      have hmove := Scheduler.step_move setup timed.scheduler first.fire
      obtain ⟨hnext, hrest⟩ := ih h
      have hpending := (hmove.pending_or_armed hnext).resolve_right hmove.not_armed_of_fire
      refine ⟨hpending, ?_⟩
      intro hmem
      rcases List.mem_cons.mp hmem with hfirst | hlater
      · cases hfirst
        exact hmove.fired_not_pending hnext
      · exact hrest hlater

theorem fireBefore_alarms (setup : Setup Tree Metadata) (timed : Timed Tree Metadata)
    (limit : Nat) : (timed.fireBefore setup limit).1.alarms = (timed.stripped limit).alarms := by
  rw [fireBefore_state, handleAll_fires_alarms]

theorem fireBefore_now (setup : Setup Tree Metadata) (timed : Timed Tree Metadata)
    (limit : Nat) : (timed.fireBefore setup limit).1.now = timed.now := by
  rw [fireBefore_state, handleAll_now, stripped]

theorem mem_fireBefore_alarms :
    alarm ∈ (timed.fireBefore setup limit).1.alarms ↔ alarm ∈ timed.alarms ∧ limit ≤ alarm.due := by
  rw [fireBefore_alarms, stripped, List.mem_filter]
  simp

/-- An alarm that has fired is not missed: its timer is no longer pending. -/
theorem Covered.fireBefore (h : timed.Covered) (limit : Nat) :
    (timed.fireBefore setup limit).1.Covered := by
  intro uri generation hpending
  obtain ⟨hbefore, hfired⟩ := handleAll_fires_pending hpending
  obtain ⟨alarm, member, hfire⟩ := List.mem_map.mp (h uri generation hbefore)
  rw [← hfire] at hfired ⊢
  -- The timer is still pending, so its alarm is not among those that have fired.
  have hlimit : limit ≤ alarm.due := by
    refine Nat.le_of_not_lt fun hdue => hfired ?_
    exact List.mem_map_of_mem (List.mem_filter.mpr ⟨member, decide_eq_true hdue⟩)
  exact List.mem_map_of_mem (mem_fireBefore_alarms.mpr ⟨member, hlimit⟩)

/-- The state between two turns: every pending timer has an alarm, all alarms
are to come, and none comes after the deadline. -/
structure Waiting (timed : Timed Tree Metadata) (deadline : Nat) : Prop where
  covered : timed.Covered
  ahead : ∀ alarm ∈ timed.alarms, timed.now < alarm.due
  due_le : ∀ alarm ∈ timed.alarms, alarm.due ≤ deadline

theorem initial_waiting (deadline : Nat) :
    (initial : Timed Tree Metadata).Waiting deadline where
  covered := fun _ _ h => nomatch h
  ahead := fun _ h => nomatch h
  due_le := fun _ h => nomatch h

theorem advance_now (setup : Setup Tree Metadata) (timed : Timed Tree Metadata)
    (duration : Nat) : (timed.advance setup duration).1.now = timed.now + duration := by
  rw [advance, fireBefore_now]

theorem mem_of_mem_advance (h : alarm ∈ (timed.advance setup duration).1.alarms) :
    alarm ∈ timed.alarms := by
  rw [advance, mem_fireBefore_alarms] at h
  exact h.1

theorem Covered.advance (h : timed.Covered) (duration : Nat) :
    (timed.advance setup duration).1.Covered :=
  have hmoved : ({ timed with now := timed.now + duration } : Timed Tree Metadata).Covered := h
  hmoved.fireBefore _

theorem advanceWith_state (setup : Setup Tree Metadata) (timed : Timed Tree Metadata)
    (duration : Nat) (events : List Event) :
    (timed.advanceWith setup duration events).1 =
      (((timed.advance setup duration).1.handleAll setup events).1.fireBefore setup
        (((timed.advance setup duration).1.handleAll setup events).1.now + 1)).1 := rfl

theorem advanceWith_now (setup : Setup Tree Metadata) (timed : Timed Tree Metadata)
    (duration : Nat) (events : List Event) :
    (timed.advanceWith setup duration events).1.now = timed.now + duration := by
  rw [advanceWith_state, fireBefore_now, handleAll_now, advance_now]

theorem mem_advanceWith_alarms :
    alarm ∈ (timed.advanceWith setup duration events).1.alarms ↔
      alarm ∈ ((timed.advance setup duration).1.handleAll setup events).1.alarms ∧
        timed.now + duration < alarm.due := by
  rw [advanceWith_state, mem_fireBefore_alarms, handleAll_now, advance_now, Nat.succ_le_iff]

theorem advanceWith_due (h : alarm ∈ (timed.advanceWith setup duration events).1.alarms) :
    alarm ∈ timed.alarms ∨ alarm.due = timed.now + duration + setup.config.debounce := by
  rcases handleAll_due (mem_advanceWith_alarms.mp h).1 with hold | hdue
  · exact .inl (mem_of_mem_advance hold)
  · rw [advance_now] at hdue
    exact .inr hdue

theorem Covered.advanceWith (h : timed.Covered) (duration : Nat) (events : List Event) :
    (timed.advanceWith setup duration events).1.Covered :=
  ((h.advance duration).handleAll events).fireBefore _

/-- A turn puts the deadline where the delay after it is over. -/
theorem Waiting.turn (h : timed.Waiting deadline) (turn : Turn)
    (hdeadline : deadline ≤ timed.now + setup.config.debounce) :
    let last := (timed.advanceWith setup turn.pause turn.events).1
    last.Waiting (last.now + setup.config.debounce) where
  covered := h.covered.advanceWith _ _
  ahead := by
    intro alarm member
    rw [advanceWith_now]
    exact (mem_advanceWith_alarms.mp member).2
  due_le := by
    intro alarm member
    rw [advanceWith_now]
    rcases advanceWith_due member with hold | hdue
    · have hle := h.due_le alarm hold
      omega
    · omega

/-- A turn without calls leaves the deadline where it is. -/
theorem Waiting.quiet (h : timed.Waiting deadline) (pause : Nat) :
    (timed.advanceWith setup pause []).1.Waiting deadline where
  covered := h.covered.advanceWith _ _
  ahead := by
    intro alarm member
    rw [advanceWith_now]
    exact (mem_advanceWith_alarms.mp member).2
  due_le := by
    intro alarm member
    exact h.due_le alarm (mem_of_mem_advance (mem_advanceWith_alarms.mp member).1)

theorem run_waiting (h : timed.Waiting (timed.now + setup.config.debounce)) (turns : List Turn) :
    let last := (timed.run setup turns).1
    last.Waiting (last.now + setup.config.debounce) := by
  induction turns generalizing timed with
  | nil => exact h
  | cons turn rest ih => exact ih (h.turn turn (Nat.le_refl _))

theorem run_quiet_waiting (h : timed.Waiting deadline) (pauses : List Nat) :
    (timed.run setup (pauses.map Turn.quiet)).1.Waiting deadline := by
  induction pauses generalizing timed with
  | nil => exact h
  | cons pause rest ih => exact ih (h.quiet pause)

theorem run_now (setup : Setup Tree Metadata) (timed : Timed Tree Metadata)
    (turns : List Turn) :
    (timed.run setup turns).1.now = timed.now + totalPause (turns.map Turn.pause) := by
  induction turns generalizing timed with
  | nil => rfl
  | cons turn rest ih =>
      have hrest := ih (timed.advanceWith setup turn.pause turn.events).1
      rw [advanceWith_now, Nat.add_assoc] at hrest
      exact hrest

theorem run_quiet_now (setup : Setup Tree Metadata) (timed : Timed Tree Metadata)
    (pauses : List Nat) :
    (timed.run setup (pauses.map Turn.quiet)).1.now = timed.now + totalPause pauses := by
  have hpauses : (pauses.map Turn.quiet).map Turn.pause = pauses := by
    rw [List.map_map]
    exact List.map_id pauses
  rw [run_now, hpauses]

/-- No timer is pending when the deadline is over. -/
theorem Waiting.idle (h : timed.Waiting deadline) (hover : deadline ≤ timed.now) (uri : Uri) :
    timed.scheduler.timers.pending.get? uri = none := by
  refine Option.eq_none_iff_forall_not_mem.mpr ?_
  intro generation hpending
  obtain ⟨alarm, member, _⟩ := List.mem_map.mp (h.covered uri generation hpending)
  have hahead := h.ahead alarm member
  have hdue := h.due_le alarm member
  omega

/-- After the delay without calls no timer is pending. -/
theorem run_idle (setup : Setup Tree Metadata) (turns : List Turn) {pauses : List Nat}
    (hquiet : setup.config.debounce ≤ totalPause pauses) (uri : Uri) :
    ((initial : Timed Tree Metadata).run setup
      (turns ++ pauses.map Turn.quiet)).1.scheduler.timers.pending.get? uri = none := by
  let start : Timed Tree Metadata := initial
  have hstart : start.Waiting (start.now + setup.config.debounce) := initial_waiting _
  have hturns := run_waiting hstart turns
  rw [run_append]
  refine (run_quiet_waiting hturns pauses).idle ?_ uri
  rw [run_quiet_now]
  omega

section AtOnce

variable (hdelay : 0 < setup.config.debounce)

include hdelay

end AtOnce

end Timed

end CelWatch
