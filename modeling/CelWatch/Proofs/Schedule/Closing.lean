import CelWatch.Proofs.Schedule.Renaming

/-!
What is left of a document after its close, as long as nothing is submitted for
it again: nothing. Fires that were on their way come in vain, and the other
documents go on as they would have without the close. Only the numbers of
parses can differ, because a timer of the document that would have parsed its
text is gone.
-/

namespace CelWatch

variable {Tree Metadata : Type}

/-- Nothing is submitted for the document. -/
def Unrequested (uri : Uri) (events : List Event) : Prop :=
  ∀ event ∈ events, ∀ snapshot ∈ event.request?, snapshot.uri ≠ uri

instance (uri : Uri) (events : List Event) : Decidable (Unrequested uri events) :=
  inferInstanceAs (Decidable (∀ event ∈ events, ∀ snapshot ∈ event.request?, _))

theorem Unrequested.init {uri : Uri} {done later : List Event}
    (h : Unrequested uri (done ++ later)) : Unrequested uri done :=
  fun event member => h event (List.mem_append_left later member)

theorem History.ofEvents_closed (events : List Event) {uri : Uri} {rest : List Event}
    (hrest : Unrequested uri rest) : ofEvents (events ++ .close uri :: rest) uri = [] := by
  have hrun : ∀ rest, Unrequested uri rest → ∀ history : History, history uri = [] →
      rest.foldl record history uri = [] := by
    intro rest
    induction rest with
    | nil => exact fun _ _ hnone => hnone
    | cons event rest ih =>
        intro hrest history hnone
        refine ih (fun other member => hrest other (List.mem_cons_of_mem _ member)) _ ?_
        refine List.eq_nil_iff_forall_not_mem.mpr fun submitted hmem => ?_
        have hbefore : submitted ∉ history uri := hnone ▸ List.not_mem_nil
        cases hrequest : event.request? with
        | none => exact hbefore (mem_of_mem_record hrequest hmem)
        | some snapshot =>
            rcases (mem_record_iff hrequest).mp hmem with ⟨huri, _⟩ | hold
            · exact hrest event List.mem_cons_self snapshot hrequest huri.symm
            · exact hbefore hold
  rw [ofEvents, List.foldl_append]
  exact hrun rest hrest _ (if_pos rfl)

namespace Scheduler

variable {setup : Setup Tree Metadata} {scheduler next small big : Scheduler Tree Metadata}
  {event : Event} {reply : Reply Tree Metadata} {effects : List Effect}

theorem closed_untracked (setup : Setup Tree Metadata) (events : List Event) {uri : Uri}
    {rest : List Event} (hrest : Unrequested uri rest) :
    let scheduler := ((initial : Scheduler Tree Metadata).handleAll setup
      (events ++ .close uri :: rest)).1
    scheduler.store.get? uri = none ∧ scheduler.timers.pending.get? uri = none := by
  intro scheduler
  have hstored : scheduler.store.get? uri = none := by
    refine Option.not_isSome_iff_eq_none.mp fun hstored => ?_
    exact ((handleAll_isStored_iff setup _ uri).mp hstored).2 (History.ofEvents_closed events hrest)
  have hslots : scheduler.Slotted setup := (log_pending setup _).1
  refine ⟨hstored, Option.eq_none_iff_forall_ne_some.mpr fun generation hpending => ?_⟩
  obtain ⟨context, hcontext⟩ := hslots.stored uri generation hpending
  cases hstored.symm.trans hcontext

theorem Move.cached_eq (h : Move setup scheduler event next reply effects) {uri : Uri}
    (hcached : event = .cached uri) : reply = .cached (next.store.get? uri) := by
  cases h with
  | lookUp =>
      obtain rfl := Event.cached.inj hcached
      rfl
  | _ => cases hcached

/-- A run in which nothing is submitted for a document does to the others what
a run without the document does. -/
theorem Mirrors.without {uri : Uri} {identity : Nat → Nat} {events : List Event}
    (hm : Mirrors (· ≠ uri) ⟨id, identity⟩ small big)
    (harmed : small.timers.armed = big.timers.armed) (hrest : Unrequested uri events)
    (hparses : Continues identity small.parses big.parses
      (parseMarks (· ≠ uri) (big.log setup events))) :
    Mirrors (· ≠ uri) ⟨id, identity⟩ (small.handleAll setup (events.filter (·.uri ≠ uri))).1
      (big.handleAll setup events).1 := by
  have hrename : Event.rename ⟨id, identity⟩ = id := by
    funext event
    cases event with
    | _ => rfl
  refine (hm.handleAll Function.injective_id ?_ ?_ hparses).1
  · rw [hrename, List.map_id]
  · rw [← harmed]
    refine Continues.of_all fun mark member => ?_
    obtain ⟨event, hevent, hmark⟩ := List.mem_flatMap.mp member
    obtain ⟨harms, rfl⟩ := List.mem_replicate.mp hmark
    refine decide_eq_true ?_
    cases event with
    | edit snapshot => exact hrest _ hevent snapshot rfl
    | _ => exact absurd rfl harms

/-- What the close does, or an event after it. -/
theorem closed_entry (setup : Setup Tree Metadata) (events : List Event) {uri : Uri}
    {rest : List Event} (hrest : Unrequested uri rest) {entry : Handling Tree Metadata}
    (hentry : entry ∈ (initial.handleAll setup events).1.log setup (.close uri :: rest)) :
    entry.after.store.get? uri = none ∧ entry.after.timers.pending.get? uri = none ∧
      (entry.event.uri = uri → entry.work = []) ∧
      (entry.work = [] ∨ ∃ snapshot kind, snapshot.uri = entry.event.uri ∧
        entry.work = (setup.pipeline.run snapshot kind).2) ∧
      (entry.event = .cached uri → entry.reply = .cached none) ∧
      ∀ diagnostics, .published diagnostics ∈ entry.effects →
        ∀ diagnostic ∈ diagnostics, diagnostic.uri ≠ uri := by
  have hmove := mem_log_move hentry
  obtain ⟨earlier, later, hlog⟩ := List.append_of_mem hentry
  obtain ⟨first, others, hsplit, _, hhandled, _⟩ := log_eq_append hlog
  have hafter : entry.after = (initial.handleAll setup (events ++ (first ++ [entry.event]))).1 := by
    rw [handleAll_append_state, handleAll_append_state]
    conv => lhs; rw [hhandled]
    rfl
  obtain ⟨done, hdone, hunrequested⟩ :
      ∃ done, first ++ [entry.event] = .close uri :: done ∧ Unrequested uri done := by
    rw [List.append_cons] at hsplit
    cases hfirst : first ++ [entry.event] with
    | nil => simp at hfirst
    | cons head done =>
        rw [hfirst] at hsplit
        obtain ⟨rfl, rfl⟩ := List.cons.inj hsplit
        exact ⟨done, rfl, hrest.init⟩
  have hwhole : entry ∈ initial.log setup (events ++ .close uri :: rest) := by
    rw [log_append]
    exact List.mem_append_right _ hentry
  have howned : ∀ key context, entry.after.store.get? key = some context →
      context.OwnedBy key := by
    rw [hafter]
    exact handleAll_ownedBy setup _
  obtain ⟨hstored, hpending⟩ :
      entry.after.store.get? uri = none ∧ entry.after.timers.pending.get? uri = none := by
    rw [hafter, hdone]
    exact closed_untracked setup events hunrequested
  refine ⟨hstored, hpending, ?_, log_work_owned setup _ hwhole, ?_, ?_⟩
  · rintro rfl
    exact hmove.work_of_untracked hstored
  · intro hcached
    rw [hmove.cached_eq hcached, hstored]
  · rintro diagnostics hpublished diagnostic member rfl
    have htracked := hmove.published_tracked howned hpublished diagnostic member
    rw [hstored] at htracked
    cases htracked

/-- Whatever the document does to the state that the second scheduler starts
in, the others are the same there. -/
theorem mirrors_others (setup : Setup Tree Metadata) (events : List Event) {uri : Uri}
    {identity : Nat → Nat} {big : Scheduler Tree Metadata} :
    let scheduler := ((initial : Scheduler Tree Metadata).handleAll setup events).1
    (∀ number < scheduler.parses, identity number = number) →
      (∀ other, other ≠ uri → big.store.get? other = scheduler.store.get? other ∧
        big.timers.pending.get? other = scheduler.timers.pending.get? other) →
      Mirrors (· ≠ uri) ⟨id, identity⟩ scheduler big := by
  intro scheduler hidentity hothers
  constructor
  · intro other hother
    rw [(hothers other (of_decide_eq_true hother)).1]
    cases hstored : scheduler.store.get? other with
    | none => rfl
    | some context =>
        have hbelow : context.NumberedBelow scheduler.parses :=
          handleAll_numberedBelow setup events other context hstored
        rw [Option.map_some, hbelow.rename_eq hidentity]
  · intro other hother
    rw [(hothers other (of_decide_eq_true hother)).2, Option.map_id]
    rfl

/-- All parses after the close are those of other documents. -/
theorem closed_marks (setup : Setup Tree Metadata) (events : List Event) {uri : Uri}
    {rest : List Event} (hrest : Unrequested uri rest) :
    let close := (initial.handleAll setup events).1.handling setup (.close uri)
    ∀ mark ∈ parseMarks (· ≠ uri) (close.after.log setup rest), mark = true := by
  intro close mark member
  obtain ⟨entry, hentry, hmark⟩ := List.mem_flatMap.mp member
  obtain ⟨hcalled, rfl⟩ := List.mem_replicate.mp hmark
  have hidle := (closed_entry setup events hrest (List.mem_cons_of_mem close hentry)).2.2.1
  refine decide_eq_true fun huri => hcalled ?_
  rw [Handling.engineCalls, engineCalls_of_work, ← Handling.work, hidle huri]
  rfl

/-- The run with the close and the run without it hold the same of the other
documents, namely what a run without the document holds. -/
theorem close_mirrored (setup : Setup Tree Metadata) (events : List Event) {uri : Uri}
    {rest : List Event} (hrest : Unrequested uri rest) :
    let before := ((initial : Scheduler Tree Metadata).handleAll setup events).1
    ∃ identity, StrictMono identity ∧ (∀ number < before.parses, identity number = number) ∧
      ∀ done later, rest = done ++ later → ∃ shared,
        Mirrors (· ≠ uri) ⟨id, identity⟩ shared (initial.handleAll setup (events ++ done)).1 ∧
          Mirrors (· ≠ uri) ⟨id, id⟩ shared
            (initial.handleAll setup (events ++ .close uri :: done)).1 := by
  intro before
  let close := before.handling setup (.close uri)
  let marks := parseMarks (· ≠ uri) (before.log setup rest)
  let identity := place (List.replicate before.parses true ++ marks)
  have hidentity : ∀ number < before.parses, identity number = number :=
    fun number => (place_replicate_append before.parses marks number).1
  have hmarks : Continues identity before.parses before.parses marks :=
    Continues.of_place fun k => (place_replicate_append before.parses marks k).2
  refine ⟨identity, place_strictMono _, hidentity, ?_⟩
  intro done later hsplit
  have hdone : Unrequested uri done := (hsplit ▸ hrest).init
  refine ⟨(before.handleAll setup (done.filter (·.uri ≠ uri))).1, ?_, ?_⟩
  · have hstart : Mirrors (· ≠ uri) ⟨id, identity⟩ before before :=
      mirrors_others setup events hidentity fun _ _ => ⟨rfl, rfl⟩
    have hmarked : marks = parseMarks (· ≠ uri) (before.log setup done) ++
        parseMarks (· ≠ uri) ((before.handleAll setup done).1.log setup later) := by
      rw [← parseMarks_append, ← log_append, ← hsplit]
    rw [handleAll_append_state]
    exact hstart.without rfl hdone (hmarked ▸ hmarks).init
  · have hstart : Mirrors (· ≠ uri) ⟨id, id⟩ before close.after :=
      mirrors_others setup events (fun _ _ => rfl) fun other hother =>
        ⟨Registry.get?_erase_of_ne _ hother, Registry.get?_erase_of_ne _ hother⟩
    rw [handleAll_append_state]
    exact hstart.without rfl hdone (Continues.of_all (closed_marks setup events hdone))

/-- After the close of a document, and until something is submitted for it
again: it is not tracked and has no timer, the engine gets no text of it,
`cached` has nothing for it, and no list of diagnostics that is handed on has
one of it, the list of the close among them. Which fires come makes no
difference. And at any time in between the others have the contexts, the timers
and the diagnostics that they would have if the close had not come. The parses
may have other numbers then, but those from before the close have the same. -/
theorem close_final (setup : Setup Tree Metadata) (events : List Event) (uri : Uri)
    (rest : List Event) (hrest : Unrequested uri rest) :
    let before := ((initial : Scheduler Tree Metadata).handleAll setup events).1
    (∀ entry ∈ before.log setup (.close uri :: rest),
      entry.after.store.get? uri = none ∧ entry.after.timers.pending.get? uri = none ∧
        (entry.work = [] ∨ ∃ snapshot kind, snapshot.uri ≠ uri ∧ snapshot.uri = entry.event.uri ∧
          entry.work = (setup.pipeline.run snapshot kind).2) ∧
        (entry.event = .cached uri → entry.reply = .cached none) ∧
        ∀ diagnostics, .published diagnostics ∈ entry.effects →
          ∀ diagnostic ∈ diagnostics, diagnostic.uri ≠ uri) ∧
      ∃ identity, StrictMono identity ∧ (∀ number < before.parses, identity number = number) ∧
        ∀ done later, rest = done ++ later → ∀ other, other ≠ uri →
          let kept := initial.handleAll setup (events ++ done)
          let closed := initial.handleAll setup (events ++ .close uri :: done)
          kept.1.store.get? other =
              (closed.1.store.get? other).map (Context.rename ⟨id, identity⟩) ∧
            kept.1.timers.pending.get? other = closed.1.timers.pending.get? other ∧
            (lastPublished kept.2.2).filter (·.uri = other) =
              (lastPublished closed.2.2).filter (·.uri = other) := by
  intro before
  constructor
  · intro entry hentry
    obtain ⟨hstored, hpending, hidle, hwork, hcached, hpublished⟩ :=
      closed_entry setup events hrest hentry
    refine ⟨hstored, hpending, ?_, hcached, hpublished⟩
    rcases hwork with hnone | ⟨snapshot, kind, huri, hrun⟩
    · exact .inl hnone
    · by_cases hsame : entry.event.uri = uri
      · exact .inl (hidle hsame)
      · exact .inr ⟨snapshot, kind, huri ▸ hsame, huri, hrun⟩
  · obtain ⟨identity, hascends, hidentity, hmirrored⟩ := close_mirrored setup events hrest
    refine ⟨identity, hascends, hidentity, ?_⟩
    intro done later hsplit other hother kept closed
    obtain ⟨shared, hkept, hclosed⟩ := hmirrored done later hsplit
    have hin : decide (other ≠ uri) = true := decide_eq_true hother
    have hstore : kept.1.store.get? other =
        (closed.1.store.get? other).map (Context.rename ⟨id, identity⟩) := by
      rw [hkept.store other hin, hclosed.store other hin, Context.rename_id, Option.map_id]
      rfl
    have hpending : kept.1.timers.pending.get? other = closed.1.timers.pending.get? other :=
      (hkept.pending other hin).trans (hclosed.pending other hin).symm
    refine ⟨hstore, hpending, ?_⟩
    rw [lastPublished_filter, lastPublished_filter, Store.diagnosticsOf, hstore, Option.map_map]
    rfl

def sheet : Uri := ⟨"doc://sheet.cel"⟩

/-- Two documents wait to be parsed. -/
def twoWaiting : List Event := [.edit (.ofText page "" 1), .edit (.ofText sheet "2" 1)]

def bothFire : List Event := [.timerFired page 1, .cached page, .timerFired sheet 2]

/-- The first document is closed and its fire comes in vain. Without the close
it would have been parsed first, so the parse of the second document would have
the number 1 and not 0. -/
theorem close_final_late_fire :
    Unrequested page bothFire ∧
      let before := ((initial : Scheduler String Nat).handleAll plainTexts twoWaiting).1
      before.timers.pending.get? page = some 1 ∧
        (∀ entry ∈ before.log plainTexts (.close page :: bothFire),
          entry.event = .cached page → entry.reply = .cached none) ∧
        ∃ identity : Nat → Nat, StrictMono identity ∧ identity 0 = 1 := by
  have hrest : Unrequested page bothFire := by decide
  obtain ⟨hentries, identity, hascends, _, hothers⟩ :=
    close_final plainTexts twoWaiting page bothFire hrest
  refine ⟨hrest, rfl, fun entry hentry => (hentries entry hentry).2.2.2.1, identity, hascends, ?_⟩
  have hsheet := (hothers bothFire [] rfl sheet (by decide)).1
  have hnumbers : some 1 = some (identity 0) :=
    congrArg (fun stored => (stored.bind Context.tree).map Shared.identity) hsheet
  exact (Option.some.inj hnumbers).symm

end Scheduler

end CelWatch
