import Mathlib.Data.List.Chain
import Mathlib.Data.List.Nodup
import CelWatch.Proofs.Schedule.Timeline

/-!
The exact times of debounced parses. An edit has one fire of its own, at the
instant when the delay after it is over. The fire parses the text of the edit,
unless the edit was overtaken in the meantime, and then it does nothing; other
fires do nothing either. So debounced parses and edits that were not overtaken
come in pairs.
-/

namespace CelWatch

variable {Tree Metadata : Type}

/-- An edit of a document and the fire of the timer that it armed, both where
they stand among the moments. -/
structure Wait (moments : List (Moment Tree Metadata)) (uri : Uri) where
  earlier : List (Moment Tree Metadata)
  edited : Moment Tree Metadata
  between : List (Moment Tree Metadata)
  fire : Moment Tree Metadata
  later : List (Moment Tree Metadata)
  snapshot : Snapshot
  generation : Nat
  split : moments = earlier ++ edited :: between ++ fire :: later
  edit_eq : edited.event = .edit snapshot
  uri_eq : snapshot.uri = uri
  armed : .armed uri generation ∈ edited.effects
  fire_eq : fire.event = .timerFired uri generation

namespace Wait

variable {moments : List (Moment Tree Metadata)} {uri : Uri}

/-- What is handled before the fire. -/
def before (wait : Wait moments uri) : List (Moment Tree Metadata) :=
  wait.earlier ++ wait.edited :: wait.between

/-- Another edit, a close, or an immediate parse has come before the fire. -/
def Overtaken (wait : Wait moments uri) : Prop :=
  ∃ moment ∈ wait.between, moment.Overtakes uri

theorem split_fire (wait : Wait moments uri) :
    moments = wait.before ++ wait.fire :: wait.later := wait.split

theorem arms (wait : Wait moments uri) : wait.edited.Arms uri wait.generation :=
  ⟨⟨wait.snapshot, wait.edit_eq, wait.uri_eq⟩, wait.armed⟩

theorem split_edited (wait : Wait moments uri) :
    moments = wait.earlier ++ wait.edited :: (wait.between ++ wait.fire :: wait.later) :=
  wait.split.trans (List.append_assoc _ _ _)

theorem fired?_fire (wait : Wait moments uri) :
    wait.fire.fired? = some ⟨uri, wait.generation, wait.fire.instant⟩ :=
  Moment.fired?_eq_some_iff.mpr ⟨wait.fire_eq, rfl⟩

end Wait

theorem Moment.mem_started {delay : Nat} {moment : Moment Tree Metadata} {alarm : Alarm} :
    alarm ∈ moment.started delay ↔
      .armed alarm.uri alarm.generation ∈ moment.effects ∧
        alarm.due = moment.instant + delay := by
  constructor
  · intro member
    obtain ⟨effect, heffect, hstart⟩ := List.mem_filterMap.mp member
    cases effect with
    | armed uri generation =>
        obtain rfl := Option.some.inj hstart
        exact ⟨heffect, rfl⟩
    | _ => cases hstart
  · rintro ⟨harmed, hdue⟩
    refine List.mem_filterMap.mpr ⟨_, harmed, ?_⟩
    rw [Timed.alarm?, ← hdue]

theorem Moment.started_generations (delay : Nat) (moment : Moment Tree Metadata) :
    (moment.started delay).map Alarm.generation =
      moment.effects.filterMap Effect.generation? := by
  rw [started, List.map_filterMap]
  congr
  funext effect
  cases effect with
  | _ => rfl

namespace Scheduler

variable {setup : Setup Tree Metadata} {scheduler : Scheduler Tree Metadata}
  {stamps : List (Nat × Event)} {delay : Nat} {closing : List Alarm} {uri : Uri}

/-- What makes no timer void leaves the stored snapshot as it is. -/
theorem Move.snapshot_of_not_voids {entry : Handling Tree Metadata}
    (h : Move setup entry.before entry.event entry.after entry.reply entry.effects)
    (hvoid : ¬ entry.Voids uri) :
    (entry.after.store.get? uri).map Context.snapshot =
      (entry.before.store.get? uri).map Context.snapshot := by
  by_cases huri : uri = entry.event.uri
  · obtain ⟨event, before, after, reply, effects⟩ := entry
    dsimp only at h huri ⊢
    subst huri
    cases h with
    | edit _ => exact absurd (.inl rfl) hvoid
    | close => exact absurd (.inl rfl) hvoid
    | @fire uri generation _ context hpending _ hstored =>
        exact absurd (.inr ⟨generation, (accepted_iff rfl).mpr hpending⟩) hvoid
    | @refresh snapshot _ _ _ =>
        refine absurd (.inl ⟨rfl, .inl ⟨?_, _, rfl, Registry.get?_insert_self _ _ _⟩⟩) hvoid
        rw [Handling.engineCalls, keepEffects_engineCalls]
        exact List.cons_ne_nil _ _
    | _ => rfl
  · rw [h.get?_of_ne huri]

/-- An edit that nothing overtakes waits with its timer and its snapshot, until
its own fire comes. -/
theorem log_waiting {events : List Event} {between later : List (Handling Tree Metadata)}
    {entry : Handling Tree Metadata} {generation : Nat} {snapshot : Snapshot}
    (hlog : scheduler.log setup events = between ++ entry :: later)
    (hpending : scheduler.timers.pending.get? uri = some generation)
    (hstored : (scheduler.store.get? uri).map Context.snapshot = some snapshot)
    (hbetween : ∀ other ∈ between,
      ¬ other.Overtakes uri ∧ other.event ≠ .timerFired uri generation) :
    entry.before.timers.pending.get? uri = some generation ∧
      (entry.before.store.get? uri).map Context.snapshot = some snapshot := by
  induction between generalizing scheduler events with
  | nil =>
      cases events with
      | nil => cases hlog
      | cons event rest =>
          obtain ⟨rfl, _⟩ := List.cons.inj hlog
          exact ⟨hpending, hstored⟩
  | cons head tail ih =>
      cases events with
      | nil => cases hlog
      | cons event rest =>
          obtain ⟨rfl, htail⟩ := List.cons.inj hlog
          obtain ⟨hovertakes, hother⟩ := hbetween _ List.mem_cons_self
          have hmove := handling_move setup scheduler event
          have hvoid : ¬ (scheduler.handling setup event).Voids uri := by
            rintro (hyes | ⟨fired, haccepted⟩)
            · exact hovertakes hyes
            · -- The pending timer is the one that waits, so no other fire is accepted.
              have htaken := (accepted_iff haccepted.1).mp haccepted
              obtain rfl := Option.some.inj (htaken.symm.trans hpending)
              exact hother haccepted.1
          refine ih htail ?_ ?_ fun other member =>
            hbetween other (List.mem_cons_of_mem _ member)
          · exact (Move.pending_of_not_voids hmove hvoid).trans hpending
          · exact (Move.snapshot_of_not_voids hmove hvoid).trans hstored

theorem Move.stored_of_edit {entry : Handling Tree Metadata} {snapshot : Snapshot}
    {kind : DocumentKind}
    (h : Move setup entry.before entry.event entry.after entry.reply entry.effects)
    (hevent : entry.event = .edit snapshot)
    (hkind : setup.config.allowList.classify snapshot.uri = some kind) :
    (entry.after.store.get? snapshot.uri).map Context.snapshot = some snapshot := by
  obtain ⟨event, before, after, reply, effects⟩ := entry
  dsimp only at h hevent ⊢
  subst hevent
  cases h with
  | ignore hnone => cases hnone.symm.trans hkind
  | edit _ =>
      rw [Registry.get?_insert_self, Option.map_some, received_snapshot]

/-- An accepted fire parses the stored snapshot. -/
theorem Move.parse_of_pending {entry : Handling Tree Metadata} {generation : Nat}
    {kind : DocumentKind} {snapshot : Snapshot}
    (h : Move setup entry.before entry.event entry.after entry.reply entry.effects)
    (hevent : entry.event = .timerFired uri generation)
    (hkind : setup.config.allowList.classify uri = some kind)
    (hpending : entry.before.timers.pending.get? uri = some generation)
    (hstored : (entry.before.store.get? uri).map Context.snapshot = some snapshot) :
    entry.engineCalls = [(snapshot.text, snapshot.path, kind.isTemplate)] ∧
      ∃ context, entry.after.store.get? uri = some context ∧ context.snapshot = snapshot ∧
        context.parsedVersion = some snapshot.version := by
  obtain ⟨event, before, after, reply, effects⟩ := entry
  dsimp only at h hevent hpending hstored ⊢
  subst hevent
  cases h with
  | stale hstale => exact absurd hpending hstale
  | idle _ huntracked =>
      rcases huntracked with hnone | hnone
      · cases hnone.symm.trans hkind
      · rw [hnone] at hstored
        cases hstored
  | @fire _ _ _ context _ hclass hcontext =>
      rw [hcontext] at hstored
      obtain rfl := Option.some.inj hstored
      obtain rfl := Option.some.inj (hclass.symm.trans hkind)
      refine ⟨?_, _, Registry.get?_insert_self _ _ _, rfl, rfl⟩
      rw [Handling.engineCalls, keepEffects_engineCalls]

/-- No two alarms that fire have the same generation. -/
theorem fired_generations_nodup
    (haccount : Account delay [] (initial.timeline setup stamps) closing) :
    (((initial.timeline setup stamps).filterMap Moment.fired?).map
      Alarm.generation).Nodup := by
  have hstarted : (([] ++ (initial.timeline setup stamps).flatMap
      (Moment.started delay)).map Alarm.generation).Nodup := by
    rw [List.nil_append, List.map_flatMap]
    simp only [Moment.started_generations]
    rw [← List.filterMap_flatMap, ← List.flatMap_map Moment.toHandling, timeline_log, log_effects,
      (handleAll_generations setup (stamps.map Prod.snd)).1]
    exact List.nodup_range'
  have hfired := ((haccount.balance.map Alarm.generation).nodup_iff).mp hstarted
  rw [List.map_append] at hfired
  exact (List.nodup_append.mp hfired).1

theorem fired_once (haccount : Account delay [] (initial.timeline setup stamps) closing)
    {earlier later : List (Moment Tree Metadata)} {moment : Moment Tree Metadata} {alarm : Alarm}
    (hsplit : initial.timeline setup stamps = earlier ++ moment :: later)
    (hfired : moment.fired? = some alarm) :
    ∀ other ∈ earlier ++ later, ∀ fired ∈ other.fired?, fired.generation ≠ alarm.generation := by
  intro other member fired hother hsame
  have hnodup := fired_generations_nodup haccount
  rw [hsplit, List.filterMap_append, List.filterMap_cons, hfired, List.map_append, List.map_cons,
    List.nodup_middle, ← List.map_append, ← List.filterMap_append] at hnodup
  refine (List.nodup_cons.mp hnodup).1 ?_
  rw [← hsame]
  exact List.mem_map_of_mem (List.mem_filterMap.mpr ⟨other, member, hother⟩)

/-- An edit whose alarm is not among those that are left has a fire. -/
theorem exists_wait (haccount : Account delay [] (initial.timeline setup stamps) closing)
    {earlier rest : List (Moment Tree Metadata)} {edited : Moment Tree Metadata}
    {snapshot : Snapshot} {kind : DocumentKind}
    (hsplit : initial.timeline setup stamps = earlier ++ edited :: rest)
    (hevent : edited.event = .edit snapshot) (huri : snapshot.uri = uri)
    (hkind : setup.config.allowList.classify uri = some kind)
    (hclosing : ∀ alarm ∈ closing, alarm.due ≠ edited.instant + delay) :
    ∃ wait : Wait (initial.timeline setup stamps) uri,
      wait.earlier = earlier ∧ wait.edited = edited := by
  have hmem : edited ∈ initial.timeline setup stamps := by simp [hsplit]
  have harmed : .armed uri (edited.before.timers.armed + 1) ∈ edited.effects :=
    (timeline_move hmem).armed_iff.mpr ⟨snapshot, kind, hevent, huri, hkind, rfl⟩
  let alarm : Alarm := ⟨uri, edited.before.timers.armed + 1, edited.instant + delay⟩
  have hstarted : alarm ∈ (initial.timeline setup stamps).flatMap (Moment.started delay) :=
    List.mem_flatMap.mpr ⟨edited, hmem, Moment.mem_started.mpr ⟨harmed, rfl⟩⟩
  have hfired : alarm ∈ (initial.timeline setup stamps).filterMap Moment.fired? := by
    refine (List.mem_append.mp (haccount.balance.mem_iff.mp hstarted)).resolve_right ?_
    exact fun hleft => hclosing alarm hleft rfl
  obtain ⟨fire, hfire, hfires⟩ := List.mem_filterMap.mp hfired
  obtain ⟨hfireEvent, _⟩ := Moment.fired?_eq_some_iff.mp hfires
  rw [hsplit, List.mem_append, List.mem_cons] at hfire
  rcases hfire with hbefore | rfl | hafter
  · -- A fire before the edit would need an alarm of the same generation before it.
    obtain ⟨front, back, rfl⟩ := List.append_of_mem hbefore
    have hbacked := haccount.backed
    rw [hsplit, List.append_assoc] at hbacked
    obtain ⟨other, hother, hagain⟩ := List.mem_flatMap.mp (hbacked.mem_of_fired hfires)
    refine absurd (Moment.mem_started.mp hagain).1 ?_
    refine armed_nowhere_else (timeline_split hsplit) harmed other.toHandling ?_ uri
    exact List.mem_append_left _ (List.mem_map_of_mem (List.mem_append_left _ hother))
  · cases hevent.symm.trans hfireEvent
  · obtain ⟨between, later, rfl⟩ := List.append_of_mem hafter
    exact ⟨{
      earlier, edited, between, fire, later, snapshot
      generation := edited.before.timers.armed + 1
      split := hsplit.trans (List.append_assoc _ (edited :: between) _).symm
      edit_eq := hevent
      uri_eq := huri
      armed := harmed
      fire_eq := hfireEvent }, rfl, rfl⟩

end Scheduler

namespace Wait

variable {setup : Setup Tree Metadata} {stamps : List (Nat × Event)} {delay : Nat}
  {closing : List Alarm} {uri : Uri} {kind : DocumentKind}

open Scheduler

theorem split_log (wait : Wait (initial.timeline setup stamps) uri) :
    initial.log setup (stamps.map Prod.snd) =
      (wait.earlier.map Moment.toHandling ++
        wait.edited.toHandling :: wait.between.map Moment.toHandling) ++
        wait.fire.toHandling :: wait.later.map Moment.toHandling := by
  have h := timeline_split wait.split
  rwa [List.map_append, List.map_cons] at h

theorem mem_edited (wait : Wait (initial.timeline setup stamps) uri) :
    wait.edited ∈ initial.timeline setup stamps := by
  have hmem : wait.edited ∈
      wait.earlier ++ wait.edited :: (wait.between ++ wait.fire :: wait.later) := by simp
  rwa [← wait.split_edited] at hmem

theorem mem_fire (wait : Wait (initial.timeline setup stamps) uri) :
    wait.fire ∈ initial.timeline setup stamps := by
  have hmem : wait.fire ∈
      wait.earlier ++ wait.edited :: wait.between ++ wait.fire :: wait.later := by simp
  rwa [← wait.split] at hmem

theorem armed_only (wait : Wait (initial.timeline setup stamps) uri) :
    ∀ other ∈ wait.earlier ++ (wait.between ++ wait.fire :: wait.later), ∀ key,
      .armed key wait.generation ∉ other.effects := by
  intro other member
  refine armed_nowhere_else (timeline_split wait.split_edited) wait.armed other.toHandling ?_
  rw [← List.map_append]
  exact List.mem_map_of_mem member

/-- The fire has its instant from the alarm, and only the edit can have started
an alarm of that generation. -/
theorem fire_instant (haccount : Account delay [] (initial.timeline setup stamps) closing)
    (wait : Wait (initial.timeline setup stamps) uri) :
    wait.fire.instant = wait.edited.instant + delay := by
  have hbacked := haccount.backed
  rw [wait.split] at hbacked
  obtain ⟨starter, hstarter, hstarted⟩ :=
    List.mem_flatMap.mp (hbacked.mem_of_fired wait.fired?_fire)
  obtain ⟨harmed, hdue⟩ := Moment.mem_started.mp hstarted
  rcases List.mem_append.mp hstarter with hearlier | hmem
  · exact absurd harmed (wait.armed_only starter (List.mem_append_left _ hearlier) uri)
  · rcases List.mem_cons.mp hmem with rfl | hbetween
    · exact hdue
    · have hlater : starter ∈ wait.between ++ wait.fire :: wait.later :=
        List.mem_append_left _ hbetween
      exact absurd harmed (wait.armed_only starter (List.mem_append_right _ hlater) uri)

theorem not_accepted_of_overtaken {wait : Wait (initial.timeline setup stamps) uri}
    (h : wait.Overtaken) : ¬ wait.fire.Accepted uri wait.generation := by
  obtain ⟨moment, member, hovertakes⟩ := h
  obtain ⟨front, back, hbetween⟩ := List.append_of_mem member
  have hlog := wait.split_log
  rw [hbetween, List.map_append, List.map_cons, ← List.cons_append, ← List.append_assoc] at hlog
  exact not_accepted_after_voids hlog (.inl hovertakes) (by simp) wait.arms

theorem waiting_of_not_overtaken
    (haccount : Account delay [] (initial.timeline setup stamps) closing)
    {wait : Wait (initial.timeline setup stamps) uri} (h : ¬ wait.Overtaken)
    (hkind : setup.config.allowList.classify uri = some kind) :
    wait.fire.before.timers.pending.get? uri = some wait.generation ∧
      (wait.fire.before.store.get? uri).map Context.snapshot = some wait.snapshot := by
  have hmove := timeline_move wait.mem_edited
  obtain ⟨_, events, _, _, hedited, hrest⟩ := log_eq_append (timeline_split wait.split_edited)
  rw [List.map_append, List.map_cons] at hrest
  refine log_waiting hrest.symm (hmove.pending_of_arms wait.arms) ?_ ?_
  · have hclass := wait.uri_eq.symm ▸ hkind
    have hstored := hmove.stored_of_edit wait.edit_eq hclass
    rwa [wait.uri_eq] at hstored
  · intro other member
    obtain ⟨moment, hmoment, rfl⟩ := List.mem_map.mp member
    refine ⟨fun hovertakes => h ⟨moment, hmoment, hovertakes⟩, ?_⟩
    intro hfire
    have hfired : moment.fired? = some ⟨uri, wait.generation, moment.instant⟩ :=
      Moment.fired?_eq_some_iff.mpr ⟨hfire, rfl⟩
    have hmem : moment ∈ wait.earlier ++ wait.edited :: wait.between ++ wait.later := by
      simp [hmoment]
    exact fired_once haccount wait.split wait.fired?_fire moment hmem _ hfired rfl

theorem generation_eq {first second : Wait (initial.timeline setup stamps) uri}
    (h : first.edited = second.edited) : first.generation = second.generation := by
  have hfirst := (timeline_move first.mem_edited).armed_iff.mp first.armed
  have hsecond := (timeline_move second.mem_edited).armed_iff.mp second.armed
  obtain ⟨_, _, _, _, _, hfirst⟩ := hfirst
  obtain ⟨_, _, _, _, _, hsecond⟩ := hsecond
  rw [hfirst, hsecond, h]

/-- An edit has one fire only, and a fire belongs to one edit only. -/
theorem earlier_eq_iff (haccount : Account delay [] (initial.timeline setup stamps) closing)
    (first second : Wait (initial.timeline setup stamps) uri) :
    first.earlier = second.earlier ↔ first.before = second.before := by
  constructor
  · intro hearlier
    have hsplits := first.split_edited.symm.trans second.split_edited
    rw [hearlier] at hsplits
    have hedited := (List.cons.inj (List.append_cancel_left hsplits)).1
    have hother : second.fire ∉ first.before ++ first.later := by
      intro hmem
      exact fired_once haccount first.split first.fired?_fire second.fire hmem _
        second.fired?_fire (generation_eq hedited).symm
    rw [List.mem_append, not_or] at hother
    have hpositions := first.split.symm.trans second.split
    exact ((List.append_cons_inj_of_notMem hother.1 hother.2).mp hpositions).1
  · intro hbefore
    have hsplits : first.before ++ first.fire :: first.later =
        second.before ++ second.fire :: second.later := first.split.symm.trans second.split
    rw [hbefore] at hsplits
    have hfire := (List.cons.inj (List.append_cancel_left hsplits)).1
    have hevent := first.fire_eq.symm.trans ((congrArg (·.event) hfire).trans second.fire_eq)
    obtain ⟨_, hgeneration⟩ := Event.timerFired.inj hevent
    have hother : second.edited ∉
        first.earlier ++ (first.between ++ first.fire :: first.later) := by
      intro hmem
      refine first.armed_only second.edited hmem uri ?_
      rw [hgeneration]
      exact second.armed
    rw [List.mem_append, not_or] at hother
    have hpositions := first.split_edited.symm.trans second.split_edited
    exact ((List.append_cons_inj_of_notMem hother.1 hother.2).mp hpositions).1

/-- The fire parses the text of the edit, unless the edit was overtaken. -/
theorem fire_parses (haccount : Account delay [] (initial.timeline setup stamps) closing)
    (hkind : setup.config.allowList.classify uri = some kind)
    (wait : Wait (initial.timeline setup stamps) uri) :
    (wait.Overtaken → wait.fire.engineCalls = []) ∧
      (¬ wait.Overtaken → wait.fire.engineCalls =
          [(wait.snapshot.text, wait.snapshot.path, kind.isTemplate)] ∧
        ∃ context, wait.fire.after.store.get? uri = some context ∧
          context.snapshot = wait.snapshot ∧
          context.parsedVersion = some wait.snapshot.version) := by
  have hmove := timeline_move wait.mem_fire
  have hlogged : wait.fire.toHandling ∈ initial.log setup (stamps.map Prod.snd) := by
    simp [wait.split_log]
  constructor
  · intro hovertaken
    have hrefused := not_accepted_of_overtaken hovertaken
    rw [hmove.accepted_iff_engineCalls (log_slotted hlogged) wait.fire_eq] at hrefused
    exact Decidable.not_not.mp hrefused
  · intro hfree
    obtain ⟨hpending, hstored⟩ := waiting_of_not_overtaken haccount hfree hkind
    exact hmove.parse_of_pending wait.fire_eq hkind hpending hstored

/-- Behind every fire that parses is an edit. -/
theorem exists_of_parse {before later : List (Moment Tree Metadata)}
    {fire : Moment Tree Metadata} {generation : Nat}
    (hsplit : initial.timeline setup stamps = before ++ fire :: later)
    (hevent : fire.event = .timerFired uri generation) (hcalls : fire.engineCalls ≠ []) :
    ∃ wait : Wait (initial.timeline setup stamps) uri,
      wait.before = before ∧ wait.fire = fire := by
  have hlog := timeline_split hsplit
  have hlogged : fire.toHandling ∈ initial.log setup (stamps.map Prod.snd) := by simp [hlog]
  have hmove := mem_log_move hlogged
  have haccepted := (hmove.accepted_iff_engineCalls (log_slotted hlogged) hevent).mpr hcalls
  have hpending := (accepted_iff hevent).mp haccepted
  obtain ⟨events, _, _, hbefore, hfire, _⟩ := log_eq_append hlog
  have hstate : fire.before = (initial.handleAll setup events).1 :=
    congrArg Handling.before hfire
  rw [hstate, (log_pending setup events).2, ← hbefore] at hpending
  obtain ⟨_, armed, _, hcurrent, ⟨⟨snapshot, hedit, huri⟩, harmed⟩, _⟩ := hpending
  obtain ⟨earlier, rest, rfl, _, hrest⟩ := List.map_eq_append_iff.mp hcurrent
  obtain ⟨edited, between, rfl, rfl, _⟩ := List.map_eq_cons_iff.mp hrest
  exact ⟨{
    earlier, edited, between, fire, later, snapshot, generation
    split := hsplit
    edit_eq := hedit
    uri_eq := huri
    armed := harmed
    fire_eq := hevent }, rfl, rfl⟩

end Wait

/-- Whether an event is an edit of the document. -/
def Event.isEditOf (uri : Uri) (event : Event) : Bool :=
  event.isEdit && decide (event.uri = uri)

theorem Event.isEditOf_iff {uri : Uri} {event : Event} :
    event.isEditOf uri = true ↔ ∃ snapshot, event = .edit snapshot ∧ snapshot.uri = uri := by
  constructor
  · intro h
    cases event with
    | edit snapshot => exact ⟨snapshot, rfl, of_decide_eq_true h⟩
    | close _ | parseNow _ | cached _ | timerFired _ _ => cases h
  · rintro ⟨snapshot, rfl, huri⟩
    exact decide_eq_true huri

theorem Event.isEditOf_and_isCall (uri : Uri) (event : Event) :
    (event.isEditOf uri && event.isCall) = event.isEditOf uri := by
  cases event with
  | timerFired _ _ => rfl
  | edit _ | close _ | parseNow _ | cached _ => exact Bool.and_true _

/-- A burst of edits: the document is only edited and looked up, and each edit
comes before the delay after the one before is over. -/
structure Burst (moments : List (Moment Tree Metadata)) (uri : Uri) (delay : Nat) : Prop where
  ordered : moments.Pairwise fun first second => first.instant ≤ second.instant
  calls : ∀ moment ∈ moments, moment.event.uri = uri →
    moment.event.isCall = true → moment.event.isEdit = true ∨ moment.event = .cached uri
  spaced : (moments.filter (·.event.isEditOf uri)).IsChain
    fun first second => second.instant < first.instant + delay

theorem Burst.exists_edit_soon {moments earlier rest : List (Moment Tree Metadata)}
    {edited : Moment Tree Metadata} {uri : Uri} {delay : Nat} (hburst : Burst moments uri delay)
    (hsplit : moments = earlier ++ edited :: rest) (hedit : edited.event.isEditOf uri = true)
    (hrest : rest.filter (·.event.isEditOf uri) ≠ []) :
    ∃ next ∈ rest, next.event.isEditOf uri = true ∧ next.instant < edited.instant + delay := by
  obtain ⟨next, tail, hnext⟩ := List.exists_cons_of_ne_nil hrest
  obtain ⟨hmem, hnextEdit⟩ := List.mem_filter.mp (hnext ▸ List.mem_cons_self : next ∈ rest.filter _)
  have hspaced := hburst.spaced
  rw [hsplit, List.filter_append, List.filter_cons, if_pos hedit, hnext] at hspaced
  exact ⟨next, hmem, hnextEdit, (List.isChain_append_cons_cons.mp hspaced).2.1⟩

namespace Wait

variable {setup : Setup Tree Metadata} {stamps : List (Nat × Event)} {delay : Nat}
  {closing : List Alarm} {uri : Uri} {kind : DocumentKind}

open Scheduler

theorem isEditOf_edited {moments : List (Moment Tree Metadata)} (wait : Wait moments uri) :
    wait.edited.event.isEditOf uri = true :=
  Event.isEditOf_iff.mpr ⟨wait.snapshot, wait.edit_eq, wait.uri_eq⟩

/-- An edit that comes before the delay is over overtakes the one before. -/
theorem overtaken_of_edit (haccount : Account delay [] (initial.timeline setup stamps) closing)
    (hburst : Burst (initial.timeline setup stamps) uri delay)
    {wait : Wait (initial.timeline setup stamps) uri} {next : Moment Tree Metadata}
    (hmem : next ∈ wait.between ++ wait.fire :: wait.later)
    (hedit : next.event.isEditOf uri = true)
    (hsoon : next.instant < wait.edited.instant + delay) : wait.Overtaken := by
  obtain ⟨snapshot, hevent, huri⟩ := Event.isEditOf_iff.mp hedit
  rcases List.mem_append.mp hmem with hbetween | hafter
  · refine ⟨next, hbetween, ?_⟩
    rw [Handling.Overtakes, hevent]
    exact huri
  · rcases List.mem_cons.mp hafter with rfl | hlater
    · cases hevent.symm.trans wait.fire_eq
    · have hfire := wait.fire_instant haccount
      have horder := hburst.ordered
      rw [wait.split, List.pairwise_append, List.pairwise_cons] at horder
      have hle := horder.2.1.1 next hlater
      omega

/-- Among edits that follow each other before the delay is over, only the last
is not overtaken. -/
theorem last_of_not_overtaken
    (haccount : Account delay [] (initial.timeline setup stamps) closing)
    (hburst : Burst (initial.timeline setup stamps) uri delay)
    {wait : Wait (initial.timeline setup stamps) uri} (hfree : ¬ wait.Overtaken) :
    (wait.between ++ wait.fire :: wait.later).filter (·.event.isEditOf uri) = [] := by
  by_contra hrest
  obtain ⟨next, hmem, hedit, hsoon⟩ :=
    hburst.exists_edit_soon wait.split_edited wait.isEditOf_edited hrest
  exact hfree (overtaken_of_edit haccount hburst hmem hedit hsoon)

theorem before_eq_of_not_overtaken
    (haccount : Account delay [] (initial.timeline setup stamps) closing)
    (hburst : Burst (initial.timeline setup stamps) uri delay)
    {first second : Wait (initial.timeline setup stamps) uri} (hfirst : ¬ first.Overtaken)
    (hsecond : ¬ second.Overtaken) : first.before = second.before := by
  refine (earlier_eq_iff haccount first second).mp ?_
  exact Lists.last_place_unique (first.split_edited.symm.trans second.split_edited)
    first.isEditOf_edited second.isEditOf_edited
    (last_of_not_overtaken haccount hburst hfirst)
    (last_of_not_overtaken haccount hburst hsecond)

/-- In a burst only edits overtake. -/
theorem not_overtaken_of_last (hburst : Burst (initial.timeline setup stamps) uri delay)
    {wait : Wait (initial.timeline setup stamps) uri}
    (hlast : (wait.between ++ wait.fire :: wait.later).filter (·.event.isEditOf uri) = []) :
    ¬ wait.Overtaken := by
  rintro ⟨moment, hmem, hovertakes⟩
  have hmoment : moment ∈ initial.timeline setup stamps := by
    have hplace : moment ∈ wait.before ++ wait.fire :: wait.later := by
      simp [before, hmem]
    rwa [← wait.split_fire] at hplace
  have hedits := hburst.calls moment hmoment
  have hnone := List.filter_eq_nil_iff.mp hlast moment (List.mem_append_left _ hmem)
  unfold Handling.Overtakes at hovertakes
  cases hcase : moment.event with
  | edit snapshot =>
      rw [hcase] at hovertakes
      exact hnone (Event.isEditOf_iff.mpr ⟨snapshot, hcase, hovertakes⟩)
  | close closed =>
      rw [hcase] at hovertakes hedits
      rcases hedits hovertakes rfl with hedit | hcached
      · cases hedit
      · cases hcached
  | parseNow snapshot =>
      rw [hcase] at hovertakes hedits
      rcases hedits hovertakes.1 rfl with hedit | hcached
      · cases hedit
      · cases hcached
  | cached _ | timerFired _ _ =>
      rw [hcase] at hovertakes
      exact hovertakes

end Wait

namespace Scheduler

variable {setup : Setup Tree Metadata} {stamps : List (Nat × Event)} {delay : Nat}
  {closing : List Alarm} {uri : Uri} {kind : DocumentKind}

theorem Move.engineCalls_of_idle {entry : Handling Tree Metadata}
    (h : Move setup entry.before entry.event entry.after entry.reply entry.effects)
    (hedit : entry.event.isEdit = true ∨ entry.event = .cached uri) : entry.engineCalls = [] := by
  obtain ⟨event, before, after, reply, effects⟩ := entry
  dsimp only at h hedit
  cases h with
  | ignore _ | edit _ | lookUp => rfl
  | _ =>
      rcases hedit with hedit | hcached
      · cases hedit
      · cases hcached

/-- In a burst whatever parses the document is the fire of the edit that nothing
overtakes. -/
theorem before_of_parse (haccount : Account delay [] (initial.timeline setup stamps) closing)
    (hburst : Burst (initial.timeline setup stamps) uri delay)
    (hkind : setup.config.allowList.classify uri = some kind)
    {wait : Wait (initial.timeline setup stamps) uri} (hfree : ¬ wait.Overtaken)
    {front back : List (Moment Tree Metadata)} {moment : Moment Tree Metadata}
    (hsplit : initial.timeline setup stamps = front ++ moment :: back)
    (huri : moment.event.uri = uri) (hcall : moment.engineCalls ≠ []) :
    front = wait.before := by
  have hmem : moment ∈ initial.timeline setup stamps := by simp [hsplit]
  have hfired : moment.event.isCall = false := by
    refine Bool.eq_false_iff.mpr fun hyes => hcall ?_
    exact (timeline_move hmem).engineCalls_of_idle (hburst.calls moment hmem huri hyes)
  cases hcase : moment.event with
  | timerFired fired generation =>
      rw [hcase] at huri
      obtain rfl : fired = uri := huri
      obtain ⟨source, hfront, rfl⟩ := Wait.exists_of_parse hsplit hcase hcall
      rw [← hfront]
      refine Wait.before_eq_of_not_overtaken haccount hburst ?_ hfree
      exact fun hover => hcall ((source.fire_parses haccount hkind).1 hover)
  | edit _ | close _ | parseNow _ | cached _ =>
      rw [hcase] at hfired
      cases hfired

/-- A burst leads to one parse, which is of the last edit. -/
theorem parse_of_burst (haccount : Account delay [] (initial.timeline setup stamps) closing)
    (hburst : Burst (initial.timeline setup stamps) uri delay)
    (hkind : setup.config.allowList.classify uri = some kind)
    {newest : Moment Tree Metadata} {snapshot : Snapshot}
    (hnewest : ((initial.timeline setup stamps).filter (·.event.isEditOf uri)).getLast? =
      some newest)
    (hevent : newest.event = .edit snapshot)
    (hclosing : ∀ alarm ∈ closing, alarm.due ≠ newest.instant + delay) :
    ∃ fire, (initial.timeline setup stamps).filter
        (fun moment => moment.event.uri = uri ∧ moment.engineCalls ≠ []) = [fire] ∧
      fire.instant = newest.instant + delay ∧
      fire.engineCalls = [(snapshot.text, snapshot.path, kind.isTemplate)] := by
  obtain ⟨front, hfilter⟩ := List.getLast?_eq_some_iff.mp hnewest
  obtain ⟨earlier, after, hmoments, _, hafter⟩ := List.filter_eq_append_iff.mp hfilter
  obtain ⟨skipped, rest, rfl, _, hedit, hrest⟩ := List.filter_eq_cons_iff.mp hafter
  have hsplit : initial.timeline setup stamps = (earlier ++ skipped) ++ newest :: rest := by
    rw [hmoments, List.append_assoc]
  obtain ⟨other, hother, huri⟩ := Event.isEditOf_iff.mp hedit
  obtain rfl := Event.edit.inj (hother.symm.trans hevent)
  obtain ⟨wait, hearlier, rfl⟩ := exists_wait haccount hsplit hevent huri hkind hclosing
  have hfree : ¬ wait.Overtaken := by
    have hplace := hsplit.symm.trans wait.split_edited
    rw [hearlier] at hplace
    refine Wait.not_overtaken_of_last hburst ?_
    rw [← (List.cons.inj (List.append_cancel_left hplace)).2]
    exact hrest
  have hparse := ((wait.fire_parses haccount hkind).2 hfree).1
  have hsnapshot : wait.snapshot = other := Event.edit.inj (wait.edit_eq.symm.trans hevent)
  refine ⟨wait.fire, ?_, wait.fire_instant haccount, hsnapshot ▸ hparse⟩
  refine Lists.filter_eq_singleton wait.split_fire ?_ ?_
  · rw [decide_eq_true_eq, wait.fire_eq, hparse]
    exact ⟨rfl, List.cons_ne_nil _ _⟩
  · intro place moment back hmoment hparses
    obtain ⟨huri, hcall⟩ := of_decide_eq_true hparses
    exact before_of_parse haccount hburst hkind hfree hmoment huri hcall

end Scheduler

namespace Timed

open Scheduler (plainTexts page)

variable {setup : Setup Tree Metadata} {turns : List Turn}

theorem initial_account (setup : Setup Tree Metadata) (turns : List Turn) :
    Account setup.config.debounce [] (initial.timeline setup turns)
      ((initial : Timed Tree Metadata).run setup turns).1.alarms :=
  run_account setup initial turns

theorem timeline_order (setup : Setup Tree Metadata) (turns : List Turn) :
    let moments := (initial : Timed Tree Metadata).timeline setup turns
    (moments.Pairwise fun first second => first.instant ≤ second.instant) ∧
      ∀ moment ∈ moments, moment.instant ≤ (initial.run setup turns).1.now := by
  intro moments
  let start : Timed Tree Metadata := initial
  have hstart : start.Waiting (start.now + setup.config.debounce) := initial_waiting _
  obtain ⟨horder, _, hbounds⟩ := stamps_order hstart List.Pairwise.nil turns
  have hstamps : moments.map Moment.stamp = start.stamps setup turns :=
    Scheduler.timeline_stamps setup start.scheduler _
  rw [← hstamps] at horder hbounds
  rw [List.pairwise_map] at horder
  refine ⟨horder, ?_⟩
  intro moment member
  exact (hbounds _ (List.mem_map_of_mem member)).2

theorem timeline_calls (setup : Setup Tree Metadata) (turns : List Turn) :
    (((initial : Timed Tree Metadata).timeline setup turns).filter (·.event.isCall)).map
      Moment.stamp = callStamps 0 turns := by
  let start : Timed Tree Metadata := initial
  have hcalls := filter_stamps setup start turns
  rw [← Scheduler.timeline_stamps setup start.scheduler (start.stamps setup turns),
    List.filter_map] at hcalls
  exact hcalls

theorem timeline_edits (setup : Setup Tree Metadata) (turns : List Turn) (uri : Uri) :
    (((initial : Timed Tree Metadata).timeline setup turns).filter (·.event.isEditOf uri)).map
      Moment.stamp = (callStamps 0 turns).filter (·.2.isEditOf uri) := by
  rw [← timeline_calls setup turns, List.filter_map, List.filter_filter]
  refine congrArg _ (List.filter_congr ?_)
  intro moment _
  exact (Event.isEditOf_and_isCall uri moment.event).symm

theorem ne_of_alarm {instant : Nat}
    (hover : instant ≤ ((initial : Timed Tree Metadata).run setup turns).1.now) :
    ∀ alarm ∈ ((initial : Timed Tree Metadata).run setup turns).1.alarms, alarm.due ≠ instant := by
  intro alarm member hdue
  let start : Timed Tree Metadata := initial
  have hstart : start.Waiting (start.now + setup.config.debounce) := initial_waiting _
  have hahead := (run_waiting hstart turns).ahead alarm member
  exact absurd hover (Nat.not_le.mpr (hdue ▸ hahead))

/-- Debounced parses come exactly when they are due. The timeline of a run has
its effects, the calls at the instants at which they are handed over, and the
fires in between. In it every edit of a document on the allow list has a fire
as soon as the clock comes to the end of the delay: one at that very instant,
after whatever was handed over before. If the edit was overtaken until then the
fire calls no engine. If not, it gives the engine the text of the edit, and the
results are stored under its version. No two edits share a fire, no edit has
two, and no other fire of the document calls the engine. In particular, if a
document is only edited and looked up, and each edit comes before the delay
after the one before is over, then it is parsed once: the last text, when the
delay after it is over. -/
theorem debounced_parses_exact (setup : Setup Tree Metadata) (turns : List Turn) {uri : Uri}
    {kind : DocumentKind} (hkind : setup.config.allowList.classify uri = some kind) :
    let outcome := (initial : Timed Tree Metadata).run setup turns
    let moments := (initial : Timed Tree Metadata).timeline setup turns
    let delay := setup.config.debounce
    (moments.flatMap (·.effects) = outcome.2.2 ∧
      (moments.filter (·.event.isCall)).map Moment.stamp = callStamps 0 turns ∧
      (moments.Pairwise fun first second => first.instant ≤ second.instant) ∧
      (∀ moment ∈ moments, moment.instant ≤ outcome.1.now) ∧
      outcome.1.now = totalPause (turns.map Turn.pause)) ∧
    (∀ earlier edited rest snapshot, moments = earlier ++ edited :: rest →
      edited.event = .edit snapshot → snapshot.uri = uri →
        edited.instant + delay ≤ outcome.1.now →
          ∃ wait : Wait moments uri, wait.earlier = earlier ∧ wait.edited = edited) ∧
    (∀ wait : Wait moments uri, wait.fire.instant = wait.edited.instant + delay ∧
      (wait.Overtaken → wait.fire.engineCalls = []) ∧
      (¬ wait.Overtaken → wait.fire.engineCalls =
          [(wait.snapshot.text, wait.snapshot.path, kind.isTemplate)] ∧
        ∃ context, wait.fire.after.store.get? uri = some context ∧
          context.snapshot = wait.snapshot ∧
          context.parsedVersion = some wait.snapshot.version)) ∧
    (∀ first second : Wait moments uri,
      first.earlier = second.earlier ↔ first.before = second.before) ∧
    (∀ before fire later generation, moments = before ++ fire :: later →
      fire.event = .timerFired uri generation → fire.engineCalls ≠ [] →
        ∃ wait : Wait moments uri, wait.before = before ∧ wait.fire = fire) ∧
    ∀ instant snapshot,
      let edits := (callStamps 0 turns).filter (·.2.isEditOf uri)
      (∀ stamp ∈ callStamps 0 turns, stamp.2.uri = uri →
        stamp.2.isEdit = true ∨ stamp.2 = .cached uri) →
        (edits.IsChain fun first second => second.1 < first.1 + delay) →
        edits.getLast? = some (instant, .edit snapshot) → instant + delay ≤ outcome.1.now →
          ∃ fire, moments.filter
              (fun moment => moment.event.uri = uri ∧ moment.engineCalls ≠ []) = [fire] ∧
            fire.instant = instant + delay ∧
            fire.engineCalls = [(snapshot.text, snapshot.path, kind.isTemplate)] := by
  intro outcome moments delay
  have haccount := initial_account setup turns
  obtain ⟨horder, hbounds⟩ := timeline_order setup turns
  refine ⟨⟨?_, timeline_calls setup turns, horder, hbounds, ?_⟩, ?_, ?_, ?_, ?_, ?_⟩
  · have heffects := (stamps_reaches setup (initial : Timed Tree Metadata) turns).2
    rw [← Scheduler.log_effects, ← Scheduler.timeline_log, List.flatMap_map] at heffects
    exact heffects
  · exact (run_now setup initial turns).trans (Nat.zero_add _)
  · intro earlier edited rest snapshot hsplit hevent huri hover
    exact Scheduler.exists_wait haccount hsplit hevent huri hkind (ne_of_alarm hover)
  · intro wait
    exact ⟨wait.fire_instant haccount, wait.fire_parses haccount hkind⟩
  · intro first second
    exact Wait.earlier_eq_iff haccount first second
  · intro before fire later generation hsplit hevent hcalls
    exact Wait.exists_of_parse hsplit hevent hcalls
  · intro instant snapshot edits honly hspaced hlast hover
    have hedits : (moments.filter (·.event.isEditOf uri)).map Moment.stamp = edits :=
      timeline_edits setup turns uri
    rw [← hedits] at hspaced hlast
    rw [List.getLast?_map] at hlast
    obtain ⟨newest, hnewest, hstamp⟩ := Option.map_eq_some_iff.mp hlast
    obtain ⟨rfl, hevent⟩ := Prod.mk.inj hstamp
    have hburst : Burst moments uri delay := by
      refine ⟨horder, ?_, (List.isChain_map _).mp hspaced⟩
      intro moment member huri hcall
      have hstamp : moment.stamp ∈ callStamps 0 turns := by
        rw [← timeline_calls setup turns]
        exact List.mem_map_of_mem (List.mem_filter.mpr ⟨member, hcall⟩)
      exact honly _ hstamp huri
    exact Scheduler.parse_of_burst haccount hburst hkind hnewest hevent (ne_of_alarm hover)

/-- The second edit comes just before the fire of the first, and the clock stops
where its own fire is due. -/
def burst : List Turn := [
  ⟨5, [.edit page "1" 1]⟩,
  ⟨defaultDebounce - 1, [.edit page "22" 2, .cached page]⟩,
  .quiet 1,
  .quiet (defaultDebounce - 1)]

theorem debounced_parses_exact_burst :
    plainTexts.config.allowList.classify page = some .source ∧
      ∃ fire, ((initial : Timed String Nat).timeline plainTexts burst).filter
          (fun moment => moment.event.uri = page ∧ moment.engineCalls ≠ []) = [fire] ∧
        fire.instant = 5 + (defaultDebounce - 1) + defaultDebounce ∧
        fire.engineCalls = [("22", page.derivedPath, false)] := by
  have hkind : plainTexts.config.allowList.classify page = some .source := by decide
  obtain ⟨_, _, _, _, _, hburst⟩ := debounced_parses_exact plainTexts burst hkind
  refine ⟨hkind, hburst (5 + (defaultDebounce - 1)) (.ofText page "22" 2) ?_ ?_ rfl ?_⟩
  · decide
  · decide
  · decide

end Timed

end CelWatch
