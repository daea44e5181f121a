import CelWatch.Proofs.Schedule.Alarm

/-!
The timeline of a run in time: the log of what is handled, each entry with its
instant. Alarms are accounted for along it. Those that are started are those
that fire and those that are left at the end, and each fires after it was
started. A fire has the instant at which its alarm is due, and the timeline is
in the order of the instants, so these are the instants at which fires come.
-/

namespace CelWatch

variable {Tree Metadata : Type}

/-- An event as it was handled, with the instant. -/
structure Moment (Tree Metadata : Type) extends Handling Tree Metadata where
  instant : Nat

/-- The alarm whose fire is handled at an instant. -/
def Alarm.ofStamp? : Nat × Event → Option Alarm
  | (instant, .timerFired uri generation) => some ⟨uri, generation, instant⟩
  | (_, .edit _) | (_, .close _) | (_, .parseNow _) | (_, .cached _) => none

namespace Moment

def stamp (moment : Moment Tree Metadata) : Nat × Event := (moment.instant, moment.event)

def started (delay : Nat) (moment : Moment Tree Metadata) : List Alarm :=
  moment.effects.filterMap (Timed.alarm? delay moment.instant)

def fired? (moment : Moment Tree Metadata) : Option Alarm :=
  Alarm.ofStamp? moment.stamp

theorem fired?_eq_some_iff {moment : Moment Tree Metadata} {alarm : Alarm} :
    moment.fired? = some alarm ↔ moment.event = alarm.fire ∧ moment.instant = alarm.due := by
  obtain ⟨⟨event, before, after, reply, effects⟩, instant⟩ := moment
  obtain ⟨uri, generation, due⟩ := alarm
  cases event with
  | timerFired fired number => simp [fired?, stamp, Alarm.ofStamp?, Alarm.fire, and_assoc]
  | edit _ | close _ | parseNow _ | cached _ => simp [fired?, stamp, Alarm.ofStamp?, Alarm.fire]

end Moment

/-- Every alarm that fires is in the account when it does: it was there at the
beginning or was started before. -/
def Backed (delay : Nat) (account : List Alarm) : List (Moment Tree Metadata) → Prop
  | [] => True
  | moment :: rest =>
    (∀ alarm ∈ moment.fired?, alarm ∈ account) ∧ Backed delay (account ++ moment.started delay) rest

/-- A timeline between two states: the alarms that are left are those that were
there or were started, less those that fired. -/
structure Account (delay : Nat) (opening : List Alarm) (moments : List (Moment Tree Metadata))
    (closing : List Alarm) : Prop where
  balance : (opening ++ moments.flatMap (Moment.started delay)).Perm
    (moments.filterMap Moment.fired? ++ closing)
  backed : Backed delay opening moments

namespace Backed

variable {delay : Nat} {account more : List Alarm}
  {moments first second : List (Moment Tree Metadata)}

theorem mono (h : Backed delay account moments) (hmore : ∀ alarm ∈ account, alarm ∈ more) :
    Backed delay more moments := by
  induction moments generalizing account more with
  | nil => trivial
  | cons moment rest ih =>
      obtain ⟨hfired, hrest⟩ := h
      refine ⟨fun alarm member => hmore alarm (hfired alarm member), ih hrest ?_⟩
      intro alarm member
      rcases List.mem_append.mp member with hold | hstarted
      · exact List.mem_append_left _ (hmore alarm hold)
      · exact List.mem_append_right _ hstarted

theorem append (hfirst : Backed delay account first)
    (hsecond : Backed delay (account ++ first.flatMap (Moment.started delay)) second) :
    Backed delay account (first ++ second) := by
  induction first generalizing account with
  | nil => simpa using hsecond
  | cons moment rest ih =>
      refine ⟨hfirst.1, ih hfirst.2 ?_⟩
      rw [List.append_assoc]
      exact hsecond

theorem mem_of_fired {earlier later : List (Moment Tree Metadata)} {moment : Moment Tree Metadata}
    {alarm : Alarm} (h : Backed delay account (earlier ++ moment :: later))
    (hfired : moment.fired? = some alarm) :
    alarm ∈ account ++ earlier.flatMap (Moment.started delay) := by
  induction earlier generalizing account with
  | nil =>
      rw [List.flatMap_nil, List.append_nil]
      exact h.1 alarm hfired
  | cons first rest ih =>
      have hrest := ih h.2
      rw [List.append_assoc] at hrest
      exact hrest

theorem of_fired (h : ∀ moment ∈ moments, ∀ alarm ∈ moment.fired?, alarm ∈ account) :
    Backed delay account moments := by
  induction moments generalizing account with
  | nil => trivial
  | cons moment rest ih =>
      refine ⟨h moment List.mem_cons_self, ih ?_⟩
      intro other member alarm hfired
      exact List.mem_append_left _ (h other (List.mem_cons_of_mem _ member) alarm hfired)

end Backed

theorem Account.append {delay : Nat} {opening middle closing : List Alarm}
    {first second : List (Moment Tree Metadata)} (hfirst : Account delay opening first middle)
    (hsecond : Account delay middle second closing) :
    Account delay opening (first ++ second) closing where
  balance := by
    have hopening := hfirst.balance.append_right (second.flatMap (Moment.started delay))
    have hmiddle := hsecond.balance.append_left (first.filterMap Moment.fired?)
    rw [List.append_assoc, List.append_assoc] at hopening
    rw [← List.append_assoc (first.filterMap Moment.fired?) _ closing] at hmiddle
    rw [List.flatMap_append, List.filterMap_append]
    exact hopening.trans hmiddle
  backed := by
    refine hfirst.backed.append (hsecond.backed.mono ?_)
    intro alarm member
    exact hfirst.balance.mem_iff.mpr (List.mem_append_right _ member)

namespace Scheduler

variable {setup : Setup Tree Metadata} {scheduler : Scheduler Tree Metadata}

def timeline (setup : Setup Tree Metadata) (scheduler : Scheduler Tree Metadata) :
    List (Nat × Event) → List (Moment Tree Metadata)
  | [] => []
  | (instant, event) :: rest =>
    let entry := scheduler.handling setup event
    ⟨entry, instant⟩ :: entry.after.timeline setup rest

theorem timeline_append (setup : Setup Tree Metadata) (scheduler : Scheduler Tree Metadata)
    (first second : List (Nat × Event)) :
    scheduler.timeline setup (first ++ second) = scheduler.timeline setup first ++
      (scheduler.handleAll setup (first.map Prod.snd)).1.timeline setup second := by
  induction first generalizing scheduler with
  | nil => rfl
  | cons stamp rest ih =>
      simp only [List.cons_append, timeline, ih]
      rfl

/-- Without the instants a timeline is a log. -/
theorem timeline_log (setup : Setup Tree Metadata) (scheduler : Scheduler Tree Metadata)
    (stamps : List (Nat × Event)) :
    (scheduler.timeline setup stamps).map Moment.toHandling =
      scheduler.log setup (stamps.map Prod.snd) := by
  induction stamps generalizing scheduler with
  | nil => rfl
  | cons stamp rest ih =>
      simp only [timeline, List.map_cons, ih]
      rfl

theorem timeline_split {stamps : List (Nat × Event)} {earlier later : List (Moment Tree Metadata)}
    {moment : Moment Tree Metadata}
    (h : scheduler.timeline setup stamps = earlier ++ moment :: later) :
    scheduler.log setup (stamps.map Prod.snd) =
      earlier.map Moment.toHandling ++ moment.toHandling :: later.map Moment.toHandling := by
  rw [← timeline_log, h, List.map_append, List.map_cons]

theorem timeline_stamps (setup : Setup Tree Metadata) (scheduler : Scheduler Tree Metadata)
    (stamps : List (Nat × Event)) :
    (scheduler.timeline setup stamps).map Moment.stamp = stamps := by
  induction stamps generalizing scheduler with
  | nil => rfl
  | cons stamp rest ih =>
      simp only [timeline, List.map_cons, ih]
      rfl

theorem timeline_move {stamps : List (Nat × Event)} {moment : Moment Tree Metadata}
    (h : moment ∈ scheduler.timeline setup stamps) :
    Move setup moment.before moment.event moment.after moment.reply moment.effects := by
  have hmem := List.mem_map_of_mem (f := Moment.toHandling) h
  rw [timeline_log] at hmem
  exact mem_log_move hmem

theorem timeline_fired (setup : Setup Tree Metadata) (scheduler : Scheduler Tree Metadata)
    (stamps : List (Nat × Event)) :
    (scheduler.timeline setup stamps).filterMap Moment.fired? =
      stamps.filterMap Alarm.ofStamp? := by
  conv => rhs; rw [← timeline_stamps setup scheduler stamps, List.filterMap_map]
  rfl

theorem filterMap_stamped (alarms : List Alarm) :
    (alarms.map Alarm.stamped).filterMap Alarm.ofStamp? = alarms := by
  rw [List.filterMap_map]
  exact List.filterMap_some

theorem timeline_fires {alarms : List Alarm} {moment : Moment Tree Metadata}
    (h : moment ∈ scheduler.timeline setup (alarms.map Alarm.stamped)) :
    ∃ alarm, moment.event = Alarm.fire alarm := by
  have hstamp := List.mem_map_of_mem (f := Moment.stamp) h
  rw [timeline_stamps] at hstamp
  obtain ⟨alarm, _, halarm⟩ := List.mem_map.mp hstamp
  exact ⟨alarm, (Prod.mk.inj halarm).2.symm⟩

theorem started_of_fire {stamps : List (Nat × Event)} {moment : Moment Tree Metadata}
    (hmem : moment ∈ scheduler.timeline setup stamps)
    (hfire : moment.event.isCall = false) (delay : Nat) : moment.started delay = [] := by
  have hmove := timeline_move hmem
  refine List.filterMap_eq_nil_iff.mpr ?_
  intro effect member
  cases effect with
  | armed uri generation =>
      obtain ⟨snapshot, _, hevent, _⟩ := hmove.armed_iff.mp member
      rw [hevent] at hfire
      cases hfire
  | _ => rfl

/-- Fires change nothing in the account but that their alarms are gone. -/
theorem fires_account (setup : Setup Tree Metadata) (scheduler : Scheduler Tree Metadata)
    {opening due left : List Alarm} (delay : Nat) (hsplit : opening.Perm (due ++ left)) :
    Account delay opening (scheduler.timeline setup (due.map Alarm.stamped)) left := by
  have hfired : (scheduler.timeline setup (due.map Alarm.stamped)).filterMap Moment.fired? =
      due := by
    rw [timeline_fired, filterMap_stamped]
  have hstarted : (scheduler.timeline setup (due.map Alarm.stamped)).flatMap
      (Moment.started delay) = [] := by
    refine List.flatMap_eq_nil_iff.mpr ?_
    intro moment member
    refine started_of_fire member ?_ delay
    obtain ⟨alarm, hevent⟩ := timeline_fires member
    rw [hevent]
    rfl
  refine ⟨?_, Backed.of_fired ?_⟩
  · rw [hfired, hstarted, List.append_nil]
    exact hsplit
  · intro moment member alarm hmoment
    have hdue : alarm ∈ due := by
      rw [← hfired]
      exact List.mem_filterMap.mpr ⟨moment, member, hmoment⟩
    exact hsplit.mem_iff.mpr (List.mem_append_left _ hdue)

end Scheduler

namespace Timed

variable {setup : Setup Tree Metadata} {timed : Timed Tree Metadata}

/-- Calls add the alarms that they start. -/
theorem calls_account (setup : Setup Tree Metadata) (timed : Timed Tree Metadata)
    {events : List Event} (hcalls : ∀ event ∈ events, event.isCall = true) :
    Account setup.config.debounce timed.alarms
      (timed.scheduler.timeline setup (events.map (timed.now, ·)))
      (timed.handleAll setup events).1.alarms := by
  induction events generalizing timed with
  | nil =>
      refine ⟨?_, trivial⟩
      rw [List.map_nil, Scheduler.timeline, List.flatMap_nil, List.append_nil]
      exact List.Perm.refl _
  | cons event rest ih =>
      have hrest := ih (timed.handle setup event).1
        fun other member => hcalls other (List.mem_cons_of_mem _ member)
      have hnone : Alarm.ofStamp? (timed.now, event) = none := by
        have hcall := hcalls event List.mem_cons_self
        cases event with
        | timerFired _ _ => cases hcall
        | edit _ | close _ | parseNow _ | cached _ => rfl
      have hfirst : Account setup.config.debounce timed.alarms
          (timed.scheduler.timeline setup [(timed.now, event)])
          (timed.handle setup event).1.alarms := by
        constructor
        · rw [Scheduler.timeline_fired, List.filterMap_cons, hnone, handle_alarms,
            Scheduler.timeline, Scheduler.timeline, List.flatMap_singleton]
          exact List.Perm.refl _
        · refine ⟨?_, trivial⟩
          intro alarm hfired
          cases hnone.symm.trans hfired
      exact hfirst.append hrest

theorem dueBefore_perm (timed : Timed Tree Metadata) (limit : Nat) :
    timed.alarms.Perm (timed.dueBefore limit ++ (timed.stripped limit).alarms) :=
  (List.filter_append_perm (fun alarm : Alarm => decide (alarm.due < limit)) timed.alarms).symm

def timeline (setup : Setup Tree Metadata) (timed : Timed Tree Metadata) (turns : List Turn) :
    List (Moment Tree Metadata) :=
  timed.scheduler.timeline setup (timed.stamps setup turns)

/-- The timeline of a turn: fires, calls, and fires again. -/
theorem turn_timeline (setup : Setup Tree Metadata) (timed : Timed Tree Metadata) (turn : Turn) :
    let moved := (timed.advance setup turn.pause).1
    let handled := (moved.handleAll setup turn.events).1
    timed.scheduler.timeline setup (timed.turnStamps setup turn) =
      timed.scheduler.timeline setup
          ((timed.dueBefore (timed.now + turn.pause)).map Alarm.stamped) ++
        moved.scheduler.timeline setup (turn.events.map (moved.now, ·)) ++
        handled.scheduler.timeline setup
          ((handled.dueBefore (handled.now + 1)).map Alarm.stamped) := by
  intro moved handled
  have hbefore := fireBefore_reaches setup { timed with now := timed.now + turn.pause }
    (timed.now + turn.pause)
  have hduring := hbefore.append (handleAll_reaches setup moved turn.events)
  have hmoved : (timed.scheduler.handleAll setup
      ((timed.dueBefore (timed.now + turn.pause)).map Alarm.fire)).1 = moved.scheduler :=
    hbefore.1
  have hhandled : (timed.scheduler.handleAll setup
      ((timed.dueBefore (timed.now + turn.pause)).map Alarm.fire ++ turn.events)).1 =
        handled.scheduler := hduring.1
  rw [turnStamps, Scheduler.timeline_append, Scheduler.timeline_append, List.map_append,
    map_snd_stamped, map_snd_calls, hmoved, hhandled]

theorem turn_account (setup : Setup Tree Metadata) (timed : Timed Tree Metadata) (turn : Turn) :
    Account setup.config.debounce timed.alarms
      (timed.scheduler.timeline setup (timed.turnStamps setup turn))
      (timed.advanceWith setup turn.pause turn.events).1.alarms := by
  let moved := (timed.advance setup turn.pause).1
  let handled := (moved.handleAll setup turn.events).1
  have hadvance := Scheduler.fires_account setup timed.scheduler setup.config.debounce
    (timed.dueBefore_perm (timed.now + turn.pause))
  have hmoved : moved.alarms = (timed.stripped (timed.now + turn.pause)).alarms :=
    fireBefore_alarms setup { timed with now := timed.now + turn.pause } _
  have hduring := calls_account setup moved turn.events_isCall
  have hsettle := Scheduler.fires_account setup handled.scheduler setup.config.debounce
    (handled.dueBefore_perm (handled.now + 1))
  have hlast : (timed.advanceWith setup turn.pause turn.events).1.alarms =
      (handled.stripped (handled.now + 1)).alarms := by
    rw [advanceWith_state, fireBefore_alarms]
  rw [turn_timeline, hlast]
  exact ((hmoved ▸ hadvance).append hduring).append hsettle

theorem run_account (setup : Setup Tree Metadata) (timed : Timed Tree Metadata)
    (turns : List Turn) :
    Account setup.config.debounce timed.alarms (timed.timeline setup turns)
      (timed.run setup turns).1.alarms := by
  induction turns generalizing timed with
  | nil =>
      refine ⟨?_, trivial⟩
      rw [timeline, stamps, Scheduler.timeline, List.flatMap_nil, List.append_nil]
      exact List.Perm.refl _
  | cons turn rest ih =>
      have hturn := turn_account setup timed turn
      have hrest := ih (timed.advanceWith setup turn.pause turn.events).1
      have hstate := (turnStamps_reaches setup timed turn).1
      rw [timeline, stamps, Scheduler.timeline_append, hstate]
      exact hturn.append hrest

theorem filter_stamped (alarms : List Alarm) :
    (alarms.map Alarm.stamped).filter (·.2.isCall) = [] := by
  refine List.filter_eq_nil_iff.mpr ?_
  intro stamp member
  obtain ⟨alarm, _, rfl⟩ := List.mem_map.mp member
  exact Bool.false_ne_true

/-- The calls are handled at the instants at which they are handed over. -/
theorem filter_stamps (setup : Setup Tree Metadata) (timed : Timed Tree Metadata)
    (turns : List Turn) :
    (timed.stamps setup turns).filter (·.2.isCall) = callStamps timed.now turns := by
  induction turns generalizing timed with
  | nil => rfl
  | cons turn rest ih =>
      have hcalls : (turn.events.map (timed.now + turn.pause, ·)).filter (·.2.isCall) =
          turn.events.map (timed.now + turn.pause, ·) := by
        rw [List.filter_map]
        exact congrArg _ turn.filter_events
      rw [stamps, List.filter_append, ih, advanceWith_now, turnStamps, List.filter_append,
        List.filter_append, filter_stamped, filter_stamped, advance_now, hcalls, callStamps,
        List.nil_append, List.append_nil]

/-- Alarms stand in the order in which they are due. -/
def Sorted (timed : Timed Tree Metadata) : Prop :=
  timed.alarms.Pairwise fun first second => first.due ≤ second.due

theorem Sorted.fireBefore (h : timed.Sorted) (limit : Nat) :
    (timed.fireBefore setup limit).1.Sorted := by
  rw [Sorted, fireBefore_alarms]
  exact List.Pairwise.filter _ h

theorem Sorted.advance (h : timed.Sorted) (duration : Nat) :
    (timed.advance setup duration).1.Sorted :=
  have hmoved : ({ timed with now := timed.now + duration } : Timed Tree Metadata).Sorted := h
  hmoved.fireBefore _

theorem Sorted.handleAll (h : timed.Sorted)
    (hdue : ∀ alarm ∈ timed.alarms, alarm.due ≤ timed.now + setup.config.debounce)
    (events : List Event) : (timed.handleAll setup events).1.Sorted := by
  obtain ⟨started, halarms, hstarted⟩ := handleAll_alarms setup timed events
  rw [Sorted, halarms, List.pairwise_append]
  refine ⟨h, ?_, ?_⟩
  · refine List.pairwise_of_forall_mem_list ?_
    intro first hfirst second hsecond
    exact Nat.le_of_eq ((hstarted first hfirst).trans (hstarted second hsecond).symm)
  · intro first hfirst second hsecond
    rw [hstarted second hsecond]
    exact hdue first hfirst

/-- What waits after the calls of a turn is not due before their instant. -/
theorem le_due_of_handled {turn : Turn} {alarm : Alarm}
    (hmem : alarm ∈ ((timed.advance setup turn.pause).1.handleAll setup turn.events).1.alarms) :
    timed.now + turn.pause ≤ alarm.due := by
  rcases handleAll_due hmem with hold | hdue
  · rw [advance, mem_fireBefore_alarms] at hold
    exact hold.2
  · rw [advance_now] at hdue
    omega

theorem mem_turnStamps {turn : Turn} {stamp : Nat × Event}
    (hmem : stamp ∈ timed.turnStamps setup turn) :
    (∃ alarm ∈ timed.alarms, stamp = alarm.stamped ∧ alarm.due < timed.now + turn.pause) ∨
      stamp.1 = timed.now + turn.pause := by
  rw [turnStamps, List.mem_append, List.mem_append] at hmem
  rcases hmem with (hbefore | hduring) | hafter
  · obtain ⟨alarm, member, rfl⟩ := List.mem_map.mp hbefore
    obtain ⟨halarm, hdue⟩ := List.mem_filter.mp member
    exact .inl ⟨alarm, halarm, rfl, of_decide_eq_true hdue⟩
  · obtain ⟨event, _, rfl⟩ := List.mem_map.mp hduring
    exact .inr (advance_now setup timed turn.pause)
  · obtain ⟨alarm, member, rfl⟩ := List.mem_map.mp hafter
    obtain ⟨halarm, hdue⟩ := List.mem_filter.mp member
    have hlower := le_due_of_handled halarm
    have hupper := of_decide_eq_true hdue
    rw [handleAll_now, advance_now] at hupper
    refine .inr ?_
    change alarm.due = timed.now + turn.pause
    omega

theorem turnStamps_bounds (hahead : ∀ alarm ∈ timed.alarms, timed.now < alarm.due) {turn : Turn}
    {stamp : Nat × Event} (hmem : stamp ∈ timed.turnStamps setup turn) :
    timed.now ≤ stamp.1 ∧ stamp.1 ≤ timed.now + turn.pause := by
  rcases mem_turnStamps hmem with ⟨alarm, halarm, rfl, hdue⟩ | hnow
  · have hlower := hahead alarm halarm
    exact ⟨Nat.le_of_lt hlower, Nat.le_of_lt hdue⟩
  · omega

theorem turnStamps_sorted (hwaiting : timed.Waiting (timed.now + setup.config.debounce))
    (hsorted : timed.Sorted) (turn : Turn) :
    (timed.turnStamps setup turn).Pairwise fun first second => first.1 ≤ second.1 := by
  have hhandled : ((timed.advance setup turn.pause).1.handleAll setup turn.events).1.Sorted := by
    refine (hsorted.advance turn.pause).handleAll ?_ _
    intro alarm member
    have hdue := hwaiting.due_le alarm (mem_of_mem_advance member)
    rw [advance_now]
    omega
  rw [turnStamps, List.append_assoc, List.pairwise_append]
  refine ⟨?_, ?_, ?_⟩
  · exact List.pairwise_map.mpr (List.Pairwise.filter _ hsorted)
  · rw [List.pairwise_append]
    refine ⟨?_, ?_, ?_⟩
    · exact List.pairwise_map.mpr (List.pairwise_of_forall fun _ _ => Nat.le_refl _)
    · exact List.pairwise_map.mpr (List.Pairwise.filter _ hhandled)
    · intro first hfirst second hsecond
      obtain ⟨event, _, rfl⟩ := List.mem_map.mp hfirst
      obtain ⟨alarm, member, rfl⟩ := List.mem_map.mp hsecond
      rw [advance_now]
      exact le_due_of_handled (List.mem_filter.mp member).1
  · intro first hfirst second hsecond
    obtain ⟨fired, hfired, rfl⟩ := List.mem_map.mp hfirst
    have hdue := of_decide_eq_true (List.mem_filter.mp hfired).2
    refine Nat.le_trans (Nat.le_of_lt hdue) ?_
    rcases List.mem_append.mp hsecond with hcall | hfire
    · obtain ⟨event, _, rfl⟩ := List.mem_map.mp hcall
      exact Nat.le_of_eq (advance_now setup timed turn.pause).symm
    · obtain ⟨alarm, member, rfl⟩ := List.mem_map.mp hfire
      exact le_due_of_handled (List.mem_filter.mp member).1

theorem Sorted.turn (hwaiting : timed.Waiting (timed.now + setup.config.debounce))
    (hsorted : timed.Sorted) (turn : Turn) :
    (timed.advanceWith setup turn.pause turn.events).1.Sorted := by
  have hmoved : (timed.advance setup turn.pause).1.Sorted := hsorted.advance _
  rw [advanceWith_state]
  refine (hmoved.handleAll ?_ _).fireBefore _
  intro alarm member
  have hdue := hwaiting.due_le alarm (mem_of_mem_advance member)
  rw [advance_now]
  omega

/-- What is handled comes in the order of the instants, none of them before the
run or after it. -/
theorem stamps_order (hwaiting : timed.Waiting (timed.now + setup.config.debounce))
    (hsorted : timed.Sorted) (turns : List Turn) :
    ((timed.stamps setup turns).Pairwise fun first second => first.1 ≤ second.1) ∧
      timed.now ≤ (timed.run setup turns).1.now ∧
      ∀ stamp ∈ timed.stamps setup turns,
        timed.now ≤ stamp.1 ∧ stamp.1 ≤ (timed.run setup turns).1.now := by
  induction turns generalizing timed with
  | nil => exact ⟨List.Pairwise.nil, Nat.le_refl _, fun _ member => nomatch member⟩
  | cons turn rest ih =>
      obtain ⟨hrest, hnow, hbounds⟩ :=
        ih (hwaiting.turn turn (Nat.le_refl _)) (hsorted.turn hwaiting turn)
      rw [advanceWith_now] at hnow hbounds
      have hlast : (timed.run setup (turn :: rest)).1.now =
          ((timed.advanceWith setup turn.pause turn.events).1.run setup rest).1.now := rfl
      rw [stamps, List.pairwise_append, hlast]
      refine ⟨⟨turnStamps_sorted hwaiting hsorted turn, hrest, ?_⟩, by omega, ?_⟩
      · intro first hfirst second hsecond
        have hupper := (turnStamps_bounds hwaiting.ahead hfirst).2
        have hlower := (hbounds second hsecond).1
        omega
      · intro stamp member
        rcases List.mem_append.mp member with hturn | hlater
        · have hstamp := turnStamps_bounds hwaiting.ahead hturn
          omega
        · have hstamp := hbounds stamp hlater
          omega

end Timed

end CelWatch
