import CelWatch.Proofs.Schedule.Freshness
import CelWatch.Proofs.Schedule.Log

/-!
Generations tell timers apart. All documents draw theirs from one counter, so
a generation is given once, and the pending one of a document is that of the
last edit unless something has made it void since. This needs nothing of the
order in which edits, closes, requests and fires come.
-/

namespace CelWatch

variable {Tree Metadata : Type}

def Effect.generation? : Effect → Option Nat
  | .armed _ generation => some generation
  | .parsed _ _ _ | .warned _ | .reported _ | .published _ => none

def Event.isEdit : Event → Bool
  | .edit _ => true
  | .close _ | .parseNow _ | .cached _ | .timerFired _ _ => false

namespace Handling

/-- An edit of the document has armed its timer with the generation. -/
def Arms (entry : Handling Tree Metadata) (uri : Uri) (generation : Nat) : Prop :=
  (∃ snapshot, entry.event = .edit snapshot ∧ snapshot.uri = uri) ∧
    .armed uri generation ∈ entry.effects

/-- A fire that is not in vain. -/
def Accepted (entry : Handling Tree Metadata) (uri : Uri) (generation : Nat) : Prop :=
  entry.event = .timerFired uri generation ∧
    (entry.before.timers.take? uri generation).isSome = true

/-- An immediate parse of the snapshot has stored a new parse, which is the
answer. -/
def StoresParse (entry : Handling Tree Metadata) (snapshot : Snapshot) : Prop :=
  entry.engineCalls ≠ [] ∧ ∃ context, entry.reply = .context context ∧
    entry.after.store.get? snapshot.uri = some context

/-- The store has answered, with a snapshot that is not newer. -/
def ServesUpTo (entry : Handling Tree Metadata) (snapshot : Snapshot) : Prop :=
  entry.engineCalls = [] ∧ ∃ context, entry.before.store.get? snapshot.uri = some context ∧
    entry.reply = .context context ∧ context.snapshot.version ≤ snapshot.version

/-- What overtakes a waiting edit of the document: another edit, a close, or an
immediate parse that makes the waiting one superfluous. -/
def Overtakes (entry : Handling Tree Metadata) (uri : Uri) : Prop :=
  match entry.event with
  | .edit snapshot => snapshot.uri = uri
  | .close closed => closed = uri
  | .parseNow snapshot =>
    snapshot.uri = uri ∧ (entry.StoresParse snapshot ∨ entry.ServesUpTo snapshot)
  | .cached _ | .timerFired _ _ => False

/-- What makes the timer of the document void. -/
def Voids (entry : Handling Tree Metadata) (uri : Uri) : Prop :=
  entry.Overtakes uri ∨ ∃ generation, entry.Accepted uri generation

end Handling

/-- The generation was given to an edit of the document, and nothing has made
it void since. -/
def Current (entries : List (Handling Tree Metadata)) (uri : Uri) (generation : Nat) : Prop :=
  ∃ earlier armed between, entries = earlier ++ armed :: between ∧ armed.Arms uri generation ∧
    ∀ entry ∈ between, ¬ entry.Voids uri

theorem current_concat {entries : List (Handling Tree Metadata)} {entry : Handling Tree Metadata}
    {uri : Uri} {generation : Nat} :
    Current (entries ++ [entry]) uri generation ↔
      entry.Arms uri generation ∨ Current entries uri generation ∧ ¬ entry.Voids uri := by
  constructor
  · rintro ⟨earlier, armed, between, hsplit, harmed, hbetween⟩
    rcases List.eq_nil_or_concat between with rfl | ⟨front, last, rfl⟩
    · obtain ⟨_, hlast⟩ := List.append_inj' hsplit rfl
      obtain rfl := List.singleton_inj.mp hlast
      exact .inl harmed
    · have hsplit' : entries ++ [entry] = (earlier ++ armed :: front) ++ [last] := by
        simpa using hsplit
      obtain ⟨hentries, hlast⟩ := List.append_inj' hsplit' rfl
      obtain rfl := List.singleton_inj.mp hlast
      refine .inr ⟨⟨earlier, armed, front, hentries, harmed, ?_⟩, ?_⟩
      · intro other member
        exact hbetween other (by simp [member])
      · exact hbetween entry (by simp)
  · rintro (harmed | ⟨⟨earlier, armed, between, rfl, harmed, hbetween⟩, hvoid⟩)
    · exact ⟨entries, entry, [], rfl, harmed, by simp⟩
    · refine ⟨earlier, armed, between ++ [entry], by simp, harmed, ?_⟩
      intro other member
      rcases List.mem_append.mp member with hold | hnew
      · exact hbetween other hold
      · exact List.mem_singleton.mp hnew ▸ hvoid

namespace Scheduler

variable {setup : Setup Tree Metadata} {scheduler next : Scheduler Tree Metadata} {event : Event}
  {reply : Reply Tree Metadata} {effects : List Effect}

/-- The pending timers are those of documents that are tracked, and no two have
the same generation. -/
structure Slotted (setup : Setup Tree Metadata) (scheduler : Scheduler Tree Metadata) : Prop where
  allowed : ∀ uri generation, scheduler.timers.pending.get? uri = some generation →
    ∃ kind, setup.config.allowList.classify uri = some kind
  stored : ∀ uri generation, scheduler.timers.pending.get? uri = some generation →
    ∃ context, scheduler.store.get? uri = some context
  given : ∀ uri generation, scheduler.timers.pending.get? uri = some generation →
    generation ≤ scheduler.timers.armed
  distinct : ∀ first second generation,
    scheduler.timers.pending.get? first = some generation →
      scheduler.timers.pending.get? second = some generation → first = second

theorem Slotted.pending_eq_none (hslots : scheduler.Slotted setup) {uri : Uri}
    (hnone : setup.config.allowList.classify uri = none) :
    scheduler.timers.pending.get? uri = none := by
  refine Option.eq_none_iff_forall_not_mem.mpr ?_
  intro generation hpending
  obtain ⟨kind, hkind⟩ := hslots.allowed uri generation hpending
  cases hnone.symm.trans hkind

theorem initial_slotted (setup : Setup Tree Metadata) :
    (initial : Scheduler Tree Metadata).Slotted setup where
  allowed := fun _ _ h => nomatch h
  stored := fun _ _ h => nomatch h
  given := fun _ _ h => nomatch h
  distinct := fun _ _ _ h => nomatch h

/-- A timer that is armed belongs to the edited document, and its generation is
the next one. -/
theorem Move.armed_iff (h : Move setup scheduler event next reply effects) {uri : Uri}
    {generation : Nat} :
    .armed uri generation ∈ effects ↔
      ∃ snapshot kind, event = .edit snapshot ∧ snapshot.uri = uri ∧
        setup.config.allowList.classify uri = some kind ∧
        generation = scheduler.timers.armed + 1 := by
  have hkeep : ∀ key context kind,
      .armed uri generation ∉ scheduler.keepEffects setup key context kind := by
    intro key context kind harmed
    rcases List.mem_append.mp harmed with hreport | hpublished
    · cases setup.pipeline.run_reports _ _ _ hreport
    · cases List.mem_singleton.mp hpublished
  constructor
  · intro harmed
    cases h with
    | @edit snapshot kind hkind =>
        obtain ⟨rfl, rfl⟩ := Effect.armed.inj (List.mem_singleton.mp harmed)
        exact ⟨snapshot, kind, rfl, rfl, hkind, rfl⟩
    | close => cases List.mem_singleton.mp harmed
    | fire _ _ _ => exact absurd harmed (hkeep _ _ _)
    | supersede _ _ _ _ => cases setup.pipeline.run_reports _ _ _ harmed
    | refresh _ _ => exact absurd harmed (hkeep _ _ _)
    | _ => cases harmed
  · rintro ⟨snapshot, kind, rfl, rfl, hkind, rfl⟩
    cases h with
    | ignore hnone => cases hnone.symm.trans hkind
    | edit _ => exact List.mem_singleton.mpr rfl

/-- Every generation is one more than the one before. -/
theorem Move.generations (h : Move setup scheduler event next reply effects) :
    effects.filterMap Effect.generation? = [] ∧
        next.timers.armed = scheduler.timers.armed ∨
      event.isEdit = true ∧
        effects.filterMap Effect.generation? = [scheduler.timers.armed + 1] ∧
        next.timers.armed = scheduler.timers.armed + 1 := by
  cases hevent : event.isEdit with
  | false =>
      refine .inl ⟨?_, ?_⟩
      · refine List.filterMap_eq_nil_iff.mpr ?_
        intro effect member
        cases effect with
        | armed uri generation =>
            obtain ⟨snapshot, _, rfl, _⟩ := h.armed_iff.mp member
            cases hevent
        | _ => rfl
      · cases h with
        | ignore _ | edit _ => cases hevent
        | _ => rfl
  | true =>
      cases h with
      | ignore _ => exact .inl ⟨rfl, rfl⟩
      | edit _ => exact .inr ⟨rfl, rfl, rfl⟩
      | _ => cases hevent

theorem Move.armed_le (h : Move setup scheduler event next reply effects) :
    scheduler.timers.armed ≤ next.timers.armed := by
  rcases h.generations with ⟨_, hsame⟩ | ⟨_, _, hnext⟩
  · omega
  · omega

/-- A timer that is pending after a move was pending before or was armed by
it. -/
theorem Move.pending_or_armed (h : Move setup scheduler event next reply effects) {uri : Uri}
    {generation : Nat} (hpending : next.timers.pending.get? uri = some generation) :
    scheduler.timers.pending.get? uri = some generation ∨ .armed uri generation ∈ effects := by
  cases h with
  | @edit snapshot kind hkind =>
      rcases Registry.get?_insert_eq_some hpending with ⟨rfl, rfl⟩ | ⟨_, hbefore⟩
      · exact .inr (List.mem_singleton.mpr rfl)
      · exact .inl hbefore
  | close => exact .inl (Registry.get?_erase_eq_some hpending).2
  | idle _ _ => exact .inl (Registry.get?_erase_eq_some hpending).2
  | fire _ _ _ => exact .inl (Registry.get?_erase_eq_some hpending).2
  | serve _ _ _ _ => exact .inl (Registry.get?_erase_eq_some hpending).2
  | refresh _ _ => exact .inl (Registry.get?_erase_eq_some hpending).2
  | _ => exact .inl hpending

/-- A generation that a move gives is one that was never given before. -/
theorem Move.armed_given (h : Move setup scheduler event next reply effects) {uri : Uri}
    {generation : Nat} (harmed : .armed uri generation ∈ effects) :
    scheduler.timers.armed < generation ∧ generation ≤ next.timers.armed := by
  obtain ⟨snapshot, kind, rfl, rfl, hkind, rfl⟩ := h.armed_iff.mp harmed
  cases h with
  | ignore hnone => cases hnone.symm.trans hkind
  | edit _ => exact ⟨Nat.lt_succ_self _, Nat.le_refl _⟩

/-- What is stored stays stored, unless its document is closed. -/
theorem Move.stored_of_open (h : Move setup scheduler event next reply effects) {uri : Uri}
    {context : Context Tree Metadata} (hstored : scheduler.store.get? uri = some context)
    (hopen : event ≠ .close uri) : ∃ kept, next.store.get? uri = some kept := by
  by_cases huri : uri = event.uri
  · subst huri
    cases h with
    | edit _ => exact ⟨_, Registry.get?_insert_self _ _ _⟩
    | close => exact absurd rfl hopen
    | fire _ _ _ => exact ⟨_, Registry.get?_insert_self _ _ _⟩
    | refresh _ _ => exact ⟨_, Registry.get?_insert_self _ _ _⟩
    | _ => exact ⟨context, hstored⟩
  · exact ⟨context, (h.get?_of_ne huri).trans hstored⟩

theorem Move.slotted (h : Move setup scheduler event next reply effects)
    (hslots : scheduler.Slotted setup) : next.Slotted setup where
  allowed := by
    intro uri generation hpending
    rcases h.pending_or_armed hpending with hbefore | harmed
    · exact hslots.allowed uri generation hbefore
    · obtain ⟨_, kind, _, _, hkind, _⟩ := h.armed_iff.mp harmed
      exact ⟨kind, hkind⟩
  stored := by
    intro uri generation hpending
    rcases h.pending_or_armed hpending with hbefore | harmed
    · obtain ⟨context, hstored⟩ := hslots.stored uri generation hbefore
      refine h.stored_of_open hstored ?_
      rintro rfl
      cases h with
      | close => exact (Registry.get?_erase_eq_some hpending).1 rfl
    · obtain ⟨snapshot, kind, rfl, rfl, hkind, _⟩ := h.armed_iff.mp harmed
      cases h with
      | ignore hnone => cases hnone.symm.trans hkind
      | edit _ => exact ⟨_, Registry.get?_insert_self _ _ _⟩
  given := by
    intro uri generation hpending
    rcases h.pending_or_armed hpending with hbefore | harmed
    · exact Nat.le_trans (hslots.given uri generation hbefore) h.armed_le
    · exact (h.armed_given harmed).2
  distinct := by
    intro first second generation hfirst hsecond
    rcases h.pending_or_armed hfirst with hbefore | harmed
    · rcases h.pending_or_armed hsecond with hbefore' | harmed'
      · exact hslots.distinct first second generation hbefore hbefore'
      · have hold := hslots.given first generation hbefore
        have hnew := (h.armed_given harmed').1
        omega
    · rcases h.pending_or_armed hsecond with hbefore' | harmed'
      · have hold := hslots.given second generation hbefore'
        have hnew := (h.armed_given harmed).1
        omega
      · obtain ⟨_, _, hevent, hfirst, _⟩ := h.armed_iff.mp harmed
        obtain ⟨_, _, hevent', hsecond, _⟩ := h.armed_iff.mp harmed'
        obtain rfl := Event.edit.inj (hevent.symm.trans hevent')
        exact hfirst.symm.trans hsecond

theorem accepted_iff {entry : Handling Tree Metadata} {uri : Uri} {generation : Nat}
    (hevent : entry.event = .timerFired uri generation) :
    entry.Accepted uri generation ↔
      entry.before.timers.pending.get? uri = some generation := by
  constructor
  · rintro ⟨_, htaken⟩
    unfold Timers.take? at htaken
    split at htaken
    · assumption
    · cases htaken
  · intro hpending
    refine ⟨hevent, ?_⟩
    rw [Timers.take?, if_pos hpending]
    rfl

/-- A fire that is accepted finds something to parse. -/
theorem Move.accepted_iff_engineCalls {entry : Handling Tree Metadata} {uri : Uri}
    {generation : Nat}
    (h : Move setup entry.before entry.event entry.after entry.reply entry.effects)
    (hslots : entry.before.Slotted setup) (hevent : entry.event = .timerFired uri generation) :
    entry.Accepted uri generation ↔ entry.engineCalls ≠ [] := by
  rw [accepted_iff hevent]
  obtain ⟨event, before, after, reply, effects⟩ := entry
  dsimp only at h hslots hevent ⊢
  subst hevent
  constructor
  · intro hpending
    cases h with
    | stale hstale => exact absurd hpending hstale
    | idle _ huntracked =>
        obtain ⟨kind, hkind⟩ := hslots.allowed uri generation hpending
        obtain ⟨context, hstored⟩ := hslots.stored uri generation hpending
        rcases huntracked with hnone | hnone
        · cases hnone.symm.trans hkind
        · cases hnone.symm.trans hstored
    | fire _ _ _ =>
        rw [Handling.engineCalls, keepEffects_engineCalls]
        exact List.cons_ne_nil _ _
  · intro hcalls
    cases h with
    | stale _ | idle _ _ => exact absurd rfl hcalls
    | fire hpending _ _ => exact hpending

/-- What does not make the timer void leaves it as it is. -/
theorem Move.pending_of_not_voids {entry : Handling Tree Metadata} {uri : Uri}
    (h : Move setup entry.before entry.event entry.after entry.reply entry.effects)
    (hvoid : ¬ entry.Voids uri) :
    entry.after.timers.pending.get? uri = entry.before.timers.pending.get? uri := by
  by_cases huri : uri = entry.event.uri
  · obtain ⟨event, before, after, reply, effects⟩ := entry
    dsimp only at h huri ⊢
    subst huri
    cases h with
    | edit _ => exact absurd (.inl rfl) hvoid
    | close => exact absurd (.inl rfl) hvoid
    | @idle uri generation hpending _ =>
        exact absurd (.inr ⟨generation, (accepted_iff rfl).mpr hpending⟩) hvoid
    | @fire uri generation _ _ hpending _ _ =>
        exact absurd (.inr ⟨generation, (accepted_iff rfl).mpr hpending⟩) hvoid
    | @serve snapshot _ context _ hstored _ hversion =>
        exact absurd (.inl ⟨rfl, .inr ⟨rfl, context, hstored, rfl, hversion⟩⟩) hvoid
    | @refresh snapshot _ _ _ =>
        refine absurd (.inl ⟨rfl, .inl ⟨?_, _, rfl, Registry.get?_insert_self _ _ _⟩⟩) hvoid
        rw [Handling.engineCalls, keepEffects_engineCalls]
        exact List.cons_ne_nil _ _
    | _ => rfl
  · exact h.pending_of_ne huri

/-- An immediate parse that overtakes a waiting edit takes its timer away. -/
theorem Move.pending_of_parseNow {entry : Handling Tree Metadata} {snapshot : Snapshot}
    (h : Move setup entry.before entry.event entry.after entry.reply entry.effects)
    (hslots : entry.before.Slotted setup) (hevent : entry.event = .parseNow snapshot)
    (hovertakes : entry.StoresParse snapshot ∨ entry.ServesUpTo snapshot) :
    entry.after.timers.pending.get? snapshot.uri = none := by
  obtain ⟨event, before, after, reply, effects⟩ := entry
  dsimp only at h hslots hevent ⊢
  subst hevent
  cases h with
  | decline hnone => exact hslots.pending_eq_none hnone
  | serve _ _ _ _ => exact Registry.get?_erase_self _ _
  | @serveOlder _ _ context _ hstored _ hversion =>
      rcases hovertakes with ⟨hcalls, _⟩ | ⟨_, other, hother, _, hle⟩
      · exact absurd rfl hcalls
      · obtain rfl := Option.some.inj (hstored.symm.trans hother)
        exact absurd hversion (Int.not_lt.mpr hle)
  | @supersede _ kind context _ hstored _ hversion =>
      rcases hovertakes with ⟨_, other, hreply, hother⟩ | ⟨hcalls, _⟩
      · -- The stored snapshot is the newer one, so the answer is not in the store.
        obtain rfl := Reply.context.inj hreply
        obtain rfl := Option.some.inj (hstored.symm.trans hother)
        exact absurd hversion (Int.lt_irrefl _)
      · rw [Handling.engineCalls, Pipeline.run_engineCalls] at hcalls
        cases hcalls
  | refresh _ _ => exact Registry.get?_erase_self _ _

/-- A timer that is pending where the one before was made void is a new one. -/
theorem Move.arms_of_voids {entry : Handling Tree Metadata} {uri : Uri} {generation : Nat}
    (h : Move setup entry.before entry.event entry.after entry.reply entry.effects)
    (hslots : entry.before.Slotted setup) (hvoid : entry.Voids uri)
    (hpending : entry.after.timers.pending.get? uri = some generation) :
    entry.Arms uri generation := by
  have hparse : ∀ snapshot, entry.event = .parseNow snapshot →
      entry.StoresParse snapshot ∨ entry.ServesUpTo snapshot →
      entry.after.timers.pending.get? snapshot.uri = none :=
    fun _ => h.pending_of_parseNow hslots
  obtain ⟨event, before, after, reply, effects⟩ := entry
  dsimp only at h hslots hpending hparse
  rcases hvoid with hovertakes | ⟨fired, hfire, htaken⟩
  · cases event with
    | edit snapshot =>
        obtain rfl : snapshot.uri = uri := hovertakes
        cases h with
        | ignore hnone => cases (hslots.pending_eq_none hnone).symm.trans hpending
        | edit hkind =>
            have hnew := Registry.eq_of_get?_insert_self hpending
            refine ⟨⟨snapshot, rfl, rfl⟩, ?_⟩
            rw [hnew]
            exact List.mem_singleton.mpr rfl
    | close closed =>
        obtain rfl : closed = uri := hovertakes
        cases h with
        | close => exact absurd rfl (Registry.get?_erase_eq_some hpending).1
    | parseNow snapshot =>
        obtain ⟨rfl, hovertakes⟩ : snapshot.uri = uri ∧ _ := hovertakes
        cases (hparse snapshot rfl hovertakes).symm.trans hpending
    | cached _ | timerFired _ _ => exact hovertakes.elim
  · subst hfire
    cases h with
    | stale hstale => exact absurd ((accepted_iff rfl).mp ⟨rfl, htaken⟩) hstale
    | idle _ _ => exact absurd rfl (Registry.get?_erase_eq_some hpending).1
    | fire _ _ _ => exact absurd rfl (Registry.get?_erase_eq_some hpending).1

theorem Move.pending_of_arms {entry : Handling Tree Metadata} {uri : Uri} {generation : Nat}
    (h : Move setup entry.before entry.event entry.after entry.reply entry.effects)
    (harms : entry.Arms uri generation) :
    entry.after.timers.pending.get? uri = some generation := by
  obtain ⟨event, before, after, reply, effects⟩ := entry
  obtain ⟨⟨snapshot, hevent, rfl⟩, harmed⟩ := harms
  dsimp only at h hevent harmed ⊢
  subst hevent
  cases h with
  | ignore _ => cases harmed
  | edit _ =>
      obtain ⟨_, rfl⟩ := Effect.armed.inj (List.mem_singleton.mp harmed)
      exact Registry.get?_insert_self _ _ _

/-- The pending timer after a move is the one that was armed by it, or the one
before if the move has not made it void. -/
theorem Move.pending_iff {entry : Handling Tree Metadata} {uri : Uri} {generation : Nat}
    (h : Move setup entry.before entry.event entry.after entry.reply entry.effects)
    (hslots : entry.before.Slotted setup) :
    entry.after.timers.pending.get? uri = some generation ↔
      entry.Arms uri generation ∨
        entry.before.timers.pending.get? uri = some generation ∧ ¬ entry.Voids uri := by
  constructor
  · intro hpending
    by_cases hvoid : entry.Voids uri
    · exact .inl (h.arms_of_voids hslots hvoid hpending)
    · rw [h.pending_of_not_voids hvoid] at hpending
      exact .inr ⟨hpending, hvoid⟩
  · rintro (harms | ⟨hpending, hvoid⟩)
    · exact h.pending_of_arms harms
    · rw [h.pending_of_not_voids hvoid]
      exact hpending

theorem log_pending (setup : Setup Tree Metadata) (events : List Event) :
    let scheduler := ((initial : Scheduler Tree Metadata).handleAll setup events).1
    scheduler.Slotted setup ∧ ∀ uri generation,
      scheduler.timers.pending.get? uri = some generation ↔
        Current (initial.log setup events) uri generation := by
  apply log_induction setup initial events
    (P := fun done scheduler => scheduler.Slotted setup ∧ ∀ uri generation,
      scheduler.timers.pending.get? uri = some generation ↔ Current done uri generation)
  · refine ⟨initial_slotted setup, ?_⟩
    intro uri generation
    constructor
    · intro hpending
      cases hpending
    · rintro ⟨earlier, _, _, hsplit, _⟩
      cases earlier with
      | nil => cases hsplit
      | cons _ _ => cases hsplit
  · intro done entry h hmove
    obtain ⟨hslots, hcurrent⟩ := h
    refine ⟨hmove.slotted hslots, ?_⟩
    intro uri generation
    rw [hmove.pending_iff hslots, hcurrent, current_concat]

/-- Generations are given in their order, one for each edit at most. -/
theorem handleAll_generations (setup : Setup Tree Metadata) (events : List Event) :
    let (scheduler, _, effects) := (initial : Scheduler Tree Metadata).handleAll setup events
    effects.filterMap Effect.generation? = List.range' 1 scheduler.timers.armed ∧
      scheduler.timers.armed ≤ events.countP Event.isEdit := by
  apply handleAll_induction setup initial events
    (P := fun done scheduler effects =>
      effects.filterMap Effect.generation? = List.range' 1 scheduler.timers.armed ∧
      scheduler.timers.armed ≤ done.countP Event.isEdit)
  · exact ⟨rfl, Nat.le_refl _⟩
  · intro done event rest next reply fresh _ h move
    obtain ⟨hgiven, hcount⟩ := h
    rw [List.filterMap_append, List.countP_append, List.countP_singleton, hgiven]
    rcases move.generations with ⟨hnone, hsame⟩ | ⟨hedit, hone, hnext⟩
    · rw [hnone, hsame, List.append_nil]
      exact ⟨rfl, by omega⟩
    · rw [hone, hnext, List.range'_1_concat, if_pos hedit, Nat.add_comm 1]
      exact ⟨rfl, by omega⟩

theorem log_slotted {events : List Event} {entry : Handling Tree Metadata}
    (h : entry ∈ (initial : Scheduler Tree Metadata).log setup events) :
    entry.before.Slotted setup := by
  obtain ⟨earlier, later, hlog⟩ := List.append_of_mem h
  obtain ⟨first, _, _, _, hentry, _⟩ := log_eq_append hlog
  rw [hentry]
  exact (log_pending setup first).1

/-- The counter is never behind a generation that was given. -/
theorem log_armed_le (setup : Setup Tree Metadata) (start : Scheduler Tree Metadata)
    (events : List Event) :
    ∀ entry ∈ start.log setup events, ∀ uri generation, .armed uri generation ∈ entry.effects →
      generation ≤ (start.handleAll setup events).1.timers.armed := by
  apply log_induction setup start events
    (P := fun done state => ∀ entry ∈ done, ∀ uri generation,
      .armed uri generation ∈ entry.effects → generation ≤ state.timers.armed)
  · intro entry member
    cases member
  · intro done entry hold hmove other member uri generation harmed
    rcases List.mem_append.mp member with hdone | hnew
    · exact Nat.le_trans (hold other hdone uri generation harmed) hmove.armed_le
    · obtain rfl := List.mem_singleton.mp hnew
      exact (hmove.armed_given harmed).2

/-- What was given once is not given again. -/
theorem not_armed_again {events : List Event} {earlier later : List (Handling Tree Metadata)}
    {first second : Handling Tree Metadata} {uri other : Uri} {generation : Nat}
    (hlog : initial.log setup events = earlier ++ second :: later) (hmem : first ∈ earlier)
    (harmed : .armed uri generation ∈ first.effects) :
    .armed other generation ∉ second.effects := by
  intro hagain
  obtain ⟨before, _, _, hearlier, hsecond, _⟩ := log_eq_append hlog
  have hle := log_armed_le setup initial before first (hearlier ▸ hmem) uri generation harmed
  have hmove := handling_move setup (initial.handleAll setup before).1 second.event
  rw [hsecond] at hagain
  have hnew := (hmove.armed_given hagain).1
  omega

theorem armed_nowhere_else {events : List Event} {earlier later : List (Handling Tree Metadata)}
    {entry : Handling Tree Metadata} {uri : Uri} {generation : Nat}
    (hlog : initial.log setup events = earlier ++ entry :: later)
    (harmed : .armed uri generation ∈ entry.effects) :
    ∀ other ∈ earlier ++ later, ∀ key, .armed key generation ∉ other.effects := by
  intro other member key hother
  rcases List.mem_append.mp member with hearlier | hlater
  · exact not_armed_again hlog hearlier hother harmed
  · obtain ⟨front, back, rfl⟩ := List.append_of_mem hlater
    rw [← List.cons_append, ← List.append_assoc] at hlog
    exact not_armed_again hlog (by simp) harmed hother

/-- What is pending after a run was pending at its start or has a generation
that was given later. -/
theorem handleAll_pending_or_given (setup : Setup Tree Metadata)
    (start : Scheduler Tree Metadata) (events : List Event) :
    let last := (start.handleAll setup events).1
    start.timers.armed ≤ last.timers.armed ∧
      ∀ uri generation, last.timers.pending.get? uri = some generation →
        start.timers.pending.get? uri = some generation ∨ start.timers.armed < generation := by
  apply log_induction setup start events
    (P := fun _ state => start.timers.armed ≤ state.timers.armed ∧
      ∀ uri generation, state.timers.pending.get? uri = some generation →
        start.timers.pending.get? uri = some generation ∨ start.timers.armed < generation)
  · exact ⟨Nat.le_refl _, fun _ _ h => .inl h⟩
  · intro _ entry h hmove
    obtain ⟨hle, hold⟩ := h
    refine ⟨Nat.le_trans hle hmove.armed_le, ?_⟩
    intro uri generation hpending
    rcases hmove.pending_or_armed hpending with hbefore | harmed
    · exact hold uri generation hbefore
    · have hnew := (hmove.armed_given harmed).1
      exact .inr (by omega)

theorem Move.not_pending_of_accepted {entry : Handling Tree Metadata} {uri : Uri}
    {generation : Nat}
    (h : Move setup entry.before entry.event entry.after entry.reply entry.effects)
    (hslots : entry.before.Slotted setup) (haccepted : entry.Accepted uri generation)
    (other : Uri) : entry.after.timers.pending.get? other ≠ some generation := by
  intro hpending
  have hbefore := (accepted_iff haccepted.1).mp haccepted
  have hold : entry.before.timers.pending.get? other = some generation := by
    refine (h.pending_or_armed hpending).resolve_right fun harmed => ?_
    have hgiven := hslots.given uri generation hbefore
    have hnew := (h.armed_given harmed).1
    omega
  obtain rfl := hslots.distinct uri other generation hbefore hold
  rcases (h.pending_iff hslots).mp hpending with ⟨⟨_, hedit, _⟩, _⟩ | ⟨_, hvoid⟩
  · cases haccepted.1.symm.trans hedit
  · exact hvoid (.inr ⟨generation, haccepted⟩)

/-- A generation that was accepted is never accepted again, whatever comes
between and whichever document the second fire names. -/
theorem not_accepted_again {events : List Event}
    {earlier between later : List (Handling Tree Metadata)} {first second : Handling Tree Metadata}
    {uri other : Uri} {generation : Nat}
    (hlog : initial.log setup events = earlier ++ first :: between ++ second :: later)
    (hfirst : first.Accepted uri generation) : ¬ second.Accepted other generation := by
  intro hsecond
  have hmem : first ∈ initial.log setup events := by simp [hlog]
  have hmove := mem_log_move hmem
  have hslots := log_slotted hmem
  obtain ⟨middle, hbefore⟩ := log_between hlog
  have hpending := (accepted_iff hsecond.1).mp hsecond
  rw [hbefore] at hpending
  rcases (handleAll_pending_or_given setup _ middle).2 other generation hpending with
    hstart | hgiven
  · exact hmove.not_pending_of_accepted hslots hfirst other hstart
  · have hold := hslots.given uri generation ((accepted_iff hfirst.1).mp hfirst)
    have hle := hmove.armed_le
    omega

/-- A fire comes to nothing after its timer was made void. -/
theorem not_accepted_after_voids {events : List Event}
    {earlier between later : List (Handling Tree Metadata)}
    {armed voiding entry : Handling Tree Metadata} {uri : Uri} {generation : Nat}
    (hlog : initial.log setup events = earlier ++ voiding :: between ++ entry :: later)
    (hvoid : voiding.Voids uri) (hmem : armed ∈ earlier) (harms : armed.Arms uri generation) :
    ¬ entry.Accepted uri generation := by
  intro haccepted
  have hvoiding : voiding ∈ initial.log setup events := by simp [hlog]
  have hmove := mem_log_move hvoiding
  have hslots := log_slotted hvoiding
  obtain ⟨middle, hbefore⟩ := log_between hlog
  have hpending := (accepted_iff haccepted.1).mp haccepted
  rw [hbefore] at hpending
  rw [List.append_assoc] at hlog
  rcases (handleAll_pending_or_given setup _ middle).2 uri generation hpending with
    hstart | hgiven
  · exact not_armed_again hlog hmem harms.2 (hmove.arms_of_voids hslots hvoid hstart).2
  · obtain ⟨first, _, _, hearlier, hentry, _⟩ := log_eq_append hlog
    have hle := log_armed_le setup initial first armed (hearlier ▸ hmem) uri generation harms.2
    have hlater := hmove.armed_le
    rw [hentry] at hgiven hlater
    exact absurd hgiven (Nat.not_lt.mpr (Nat.le_trans hle hlater))

/-- Fires are taken exactly when they are current. In every run each timer that
is armed has a generation which was never given before (and which is no greater
than the number of edits, so that a counter of 64 bits is enough for fewer than
2^64 of them), and no document has two timers. A fire is accepted, and then
calls the engine, if and only if its generation was given to an edit of its
document and nothing has made it void since. So no generation is accepted
twice, and none that was given before a close is accepted after it. -/
theorem fire_accepted_iff_current (setup : Setup Tree Metadata) (events : List Event) :
    let log := (initial : Scheduler Tree Metadata).log setup events
    let given := (log.flatMap Handling.effects).filterMap Effect.generation?
    given.Nodup ∧ (∀ generation ∈ given, generation ≤ events.countP Event.isEdit) ∧
      (∀ entry ∈ log, entry.after.timers.pending.keys.Nodup) ∧
      (∀ earlier entry later uri generation, log = earlier ++ entry :: later →
        entry.event = .timerFired uri generation →
          (entry.Accepted uri generation ↔ entry.engineCalls ≠ []) ∧
            (entry.Accepted uri generation ↔ Current earlier uri generation)) ∧
      (∀ earlier first between second later uri other generation,
        log = earlier ++ first :: between ++ second :: later →
          first.Accepted uri generation → ¬ second.Accepted other generation) ∧
      ∀ earlier armed closing between entry later uri generation,
        log = earlier ++ closing :: between ++ entry :: later → closing.event = .close uri →
          armed ∈ earlier → armed.Arms uri generation → ¬ entry.Accepted uri generation := by
  intro log given
  have hgiven : given =
      List.range' 1 (initial.handleAll setup events).1.timers.armed := by
    rw [← (handleAll_generations setup events).1, ← log_effects]
  have hcount := (handleAll_generations setup events).2
  refine ⟨?_, ?_, ?_, ?_, ?_, ?_⟩
  · rw [hgiven]
    exact List.nodup_range'
  · intro generation member
    rw [hgiven, List.mem_range'_1] at member
    omega
  · intro entry _
    exact entry.after.timers.pending.nodup
  · intro earlier entry later uri generation hlog hevent
    have hmem : entry ∈ initial.log setup events := by
      change entry ∈ log
      simp [hlog]
    have hmove := mem_log_move hmem
    refine ⟨hmove.accepted_iff_engineCalls (log_slotted hmem) hevent, ?_⟩
    obtain ⟨first, _, _, hearlier, hentry, _⟩ := log_eq_append hlog
    rw [accepted_iff hevent, hearlier, hentry]
    exact (log_pending setup first).2 uri generation
  · intro earlier first between second later uri other generation hlog hfirst
    exact not_accepted_again hlog hfirst
  · intro earlier armed closing between entry later uri generation hlog hclose hmem harms
    have hvoid : closing.Voids uri := by
      refine .inl ?_
      rw [Handling.Overtakes, hclose]
    exact not_accepted_after_voids hlog hvoid hmem harms

def reopened : List Event := [
  .edit (.ofText page "1" 1),
  .close page,
  .edit (.ofText page "2" 1),
  .timerFired page 1,
  .timerFired page 2]

/-- The fire of the closed document is late and comes to nothing; that of the
reopened one is current. -/
theorem fire_accepted_iff_current_reopened :
    ∃ earlier late entry,
      initial.log plainTexts reopened = earlier ++ late :: [] ++ entry :: [] ∧
        late.event = .timerFired page 1 ∧ ¬ late.Accepted page 1 ∧
        entry.event = .timerFired page 2 ∧ Current (earlier ++ [late]) page 2 ∧
        entry.Accepted page 2 ∧ entry.engineCalls ≠ [] := by
  obtain ⟨_, _, _, hiff, _, hclosed⟩ := fire_accepted_iff_current plainTexts reopened
  let before := (initial : Scheduler String Nat).log plainTexts (reopened.take 3)
  let opened := ((initial : Scheduler String Nat).handleAll plainTexts (reopened.take 3)).1
  let late := opened.handling plainTexts (.timerFired page 1)
  let entry := late.after.handling plainTexts (.timerFired page 2)
  have hlog : initial.log plainTexts reopened = before ++ late :: [] ++ entry :: [] := rfl
  have haccepted : entry.Accepted page 2 := ⟨rfl, rfl⟩
  obtain ⟨hcalls, hcurrent⟩ := hiff _ entry [] page 2 hlog rfl
  refine ⟨before, late, entry, hlog, rfl, ?_, rfl, hcurrent.mp haccepted, haccepted,
    hcalls.mp haccepted⟩
  have harms : before[0].Arms page 1 := ⟨⟨_, rfl, rfl⟩, List.mem_singleton.mpr rfl⟩
  exact hclosed [before[0]] before[0] before[1] [before[2]] late [entry] page 1 rfl rfl
    (List.mem_singleton.mpr rfl) harms

end Scheduler

end CelWatch
