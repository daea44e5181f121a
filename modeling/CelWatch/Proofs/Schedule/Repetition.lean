import CelWatch.Proofs.Schedule.Eager
import CelWatch.Proofs.Schedule.Renaming

/-!
An immediate parse that is asked for again. After the first request the store
has the results, and the second is answered with the very same context; only
where the stored snapshot is newer than the one asked for are its results handed
out and not kept, and then a second request is a second parse.
-/

namespace CelWatch

variable {Tree Metadata : Type}

theorem Context.isSame_self (context : Context Tree Metadata) : context.isSame context = true := by
  simp [isSame]

/-- Two parses of a snapshot give contexts that are the same when there is no
tree to tell them apart. -/
theorem Setup.parsed_isSame_iff (setup : Setup Tree Metadata) {first second : Nat}
    (hne : second ≠ first) (context : Context Tree Metadata) (kind : DocumentKind) :
    (setup.parsed second context kind).isSame (setup.parsed first context kind) = true ↔
      (setup.parsed first context kind).tree = none := by
  have hpaired := setup.pipeline.run_paired context.snapshot kind
  simp only [Setup.parsed, ParseResult.store, Context.isSame]
  cases htree : (setup.pipeline.run context.snapshot kind).1.tree with
  | none =>
      rw [htree, Option.isSome_none, Option.isSome_eq_false_iff, Option.isNone_iff_eq_none] at hpaired
      simp [hpaired]
  | some tree => simp [hne]

namespace Scheduler

variable {setup : Setup Tree Metadata} {scheduler next : Scheduler Tree Metadata}
  {snapshot : Snapshot} {kind : DocumentKind} {reply : Reply Tree Metadata} {effects : List Effect}

/-- The stored snapshot is newer than this one, and the stored results are of
another version. -/
def Supersedes (scheduler : Scheduler Tree Metadata) (snapshot : Snapshot) : Prop :=
  ∃ stored, scheduler.store.get? snapshot.uri = some stored ∧
    snapshot.version < stored.snapshot.version ∧ stored.parsedVersion ≠ some snapshot.version

/-- A request that is not superseded leaves its answer in the store, and takes
one parse at most. -/
theorem Move.keeps_answer (h : Move setup scheduler (.parseNow snapshot) next reply effects)
    (hkind : setup.config.allowList.classify snapshot.uri = some kind)
    (hlatest : ¬ scheduler.Supersedes snapshot) :
    ∃ context, reply = .context context ∧ next.store.get? snapshot.uri = some context ∧
      context.parsedVersion = some snapshot.version ∧
      (effects.filterMap Effect.engineCall?).length ≤ 1 := by
  cases h with
  | decline hnone => cases hnone.symm.trans hkind
  | serve _ hstored hparsed _ => exact ⟨_, rfl, hstored, hparsed, Nat.zero_le 1⟩
  | serveOlder _ hstored hparsed _ => exact ⟨_, rfl, hstored, hparsed, Nat.zero_le 1⟩
  | supersede _ hstored hparsed hversion => exact absurd ⟨_, hstored, hversion, hparsed⟩ hlatest
  | refresh _ _ =>
      refine ⟨_, rfl, Registry.get?_insert_self _ _ _, rfl, ?_⟩
      rw [keepEffects_engineCalls]
      exact Nat.le_refl 1

/-- Stored results of the version asked for are the answer, and nothing else
happens. -/
theorem Move.served (h : Move setup scheduler (.parseNow snapshot) next reply effects)
    (hkind : setup.config.allowList.classify snapshot.uri = some kind)
    {context : Context Tree Metadata} (hstored : scheduler.store.get? snapshot.uri = some context)
    (hparsed : context.parsedVersion = some snapshot.version) :
    reply = .context context ∧ effects = [] := by
  cases h with
  | decline hnone => cases hnone.symm.trans hkind
  | serve _ hfound _ _ =>
      obtain rfl := Option.some.inj (hfound.symm.trans hstored)
      exact ⟨rfl, rfl⟩
  | serveOlder _ hfound _ _ =>
      obtain rfl := Option.some.inj (hfound.symm.trans hstored)
      exact ⟨rfl, rfl⟩
  | supersede _ hfound hother _ =>
      obtain rfl := Option.some.inj (hfound.symm.trans hstored)
      exact absurd hparsed hother
  | refresh _ hother => exact absurd hparsed (hother context hstored).1

/-- The answer to a superseded request is that of a parse of its own. It has a
number, and leaves nothing else. -/
theorem Move.superseded (h : Move setup scheduler (.parseNow snapshot) next reply effects)
    (hkind : setup.config.allowList.classify snapshot.uri = some kind)
    (hsuperseded : scheduler.Supersedes snapshot) :
    next = { scheduler with parses := scheduler.parses + 1 } ∧
      reply = .context (setup.parsed scheduler.parses (.unparsed snapshot) kind) ∧
      effects = (setup.pipeline.run snapshot kind).2 := by
  obtain ⟨stored, hstored, hversion, hother⟩ := hsuperseded
  cases h with
  | decline hnone => cases hnone.symm.trans hkind
  | serve _ hfound hparsed _ =>
      obtain rfl := Option.some.inj (hfound.symm.trans hstored)
      exact absurd hparsed hother
  | serveOlder _ hfound hparsed _ =>
      obtain rfl := Option.some.inj (hfound.symm.trans hstored)
      exact absurd hparsed hother
  | supersede hclass _ _ _ =>
      obtain rfl := Option.some.inj (hclass.symm.trans hkind)
      exact ⟨rfl, rfl, rfl⟩
  | refresh _ holder => exact absurd hversion (Int.not_lt.mpr (holder stored hstored).2)

/-- Events of other documents leave the context of a document as it is, and
never give a number again. -/
theorem handleAll_others (setup : Setup Tree Metadata) (scheduler : Scheduler Tree Metadata)
    {events : List Event} {uri : Uri} (hothers : ∀ event ∈ events, event.uri ≠ uri) :
    let last := (scheduler.handleAll setup events).1
    last.store.get? uri = scheduler.store.get? uri ∧ scheduler.parses ≤ last.parses := by
  apply handleAll_induction setup scheduler events
    (P := fun _ last _ => last.store.get? uri = scheduler.store.get? uri ∧
      scheduler.parses ≤ last.parses)
  · exact ⟨rfl, Nat.le_refl _⟩
  · intro done event rest next reply fresh hall h move
    have hother : uri ≠ event.uri := (hothers event (by simp [← hall])).symm
    refine ⟨(move.get?_of_ne hother).trans h.1, Nat.le_trans h.2 ?_⟩
    rw [move.parses_eq]
    exact Nat.le_add_right _ _

/-- An immediate parse that is asked for again. From any state, and whatever is
done to other documents between the requests: unless the stored snapshot
supersedes the one asked for, there is one parse at most for both requests, and
the answer to the second is the answer to the first. If it does, either request
takes one parse; for one snapshot both answers have the same contents, and they
are the same context only if there is no tree. In either case the second request
hands no diagnostics on. -/
theorem repeated_request (setup : Setup Tree Metadata) (scheduler : Scheduler Tree Metadata)
    (first second : Snapshot) {between : List Event}
    (hkind : setup.config.allowList.classify first.uri = some kind)
    (huri : second.uri = first.uri) (hversion : second.version = first.version)
    (hothers : ∀ event ∈ between, event.uri ≠ first.uri) :
    let once := scheduler.handling setup (.parseNow first)
    let again := (once.after.handleAll setup between).1.handling setup (.parseNow second)
    ∃ answer repeated, once.reply = .context answer ∧ again.reply = .context repeated ∧
      Silent again.effects ∧
      (¬ scheduler.Supersedes first →
        once.engineCalls.length + again.engineCalls.length ≤ 1 ∧
          repeated = answer ∧ repeated.isSame answer = true) ∧
      (scheduler.Supersedes first →
        once.engineCalls.length = 1 ∧ again.engineCalls.length = 1 ∧
          (second = first → repeated.contents = answer.contents ∧
            (repeated.isSame answer = true ↔ answer.tree = none))) := by
  intro once again
  have honce : Move _ _ _ once.after once.reply once.effects := handling_move setup scheduler _
  have hagain : Move _ _ _ again.after again.reply again.effects := handling_move setup _ _
  obtain ⟨hstore, hparses⟩ := handleAll_others setup once.after hothers
  have hkind' : setup.config.allowList.classify second.uri = some kind := huri ▸ hkind
  by_cases hlatest : scheduler.Supersedes first
  · obtain ⟨hafter, hreply, heffects⟩ := honce.superseded hkind hlatest
    have hstill : (once.after.handleAll setup between).1.Supersedes second := by
      obtain ⟨stored, hstored, hnewer, hother⟩ := hlatest
      refine ⟨stored, ?_, hversion ▸ hnewer, hversion ▸ hother⟩
      rw [huri, hstore]
      exact (congrArg (·.store.get? first.uri) hafter).trans hstored
    obtain ⟨_, hreply', heffects'⟩ := hagain.superseded hkind' hstill
    refine ⟨_, _, hreply, hreply', ?_, fun h => absurd hlatest h, fun _ => ⟨?_, ?_, ?_⟩⟩
    · rw [heffects']
      exact setup.pipeline.run_silent second kind
    · rw [Handling.engineCalls, heffects, Pipeline.run_engineCalls]
      rfl
    · rw [Handling.engineCalls, heffects', Pipeline.run_engineCalls]
      rfl
    · rintro rfl
      have hcount : once.after.parses = scheduler.parses + 1 := congrArg (·.parses) hafter
      refine ⟨?_, setup.parsed_isSame_iff (by omega) _ kind⟩
      simp [Context.contents, Setup.parsed, ParseResult.store, Function.comp_def]
  · obtain ⟨answer, hreply, hstored, hparsed, hcalls⟩ := honce.keeps_answer hkind hlatest
    have hstored' : (once.after.handleAll setup between).1.store.get? second.uri = some answer := by
      rw [huri, hstore]
      exact hstored
    obtain ⟨hreply', heffects'⟩ := hagain.served hkind' hstored' (hversion ▸ hparsed)
    refine ⟨answer, answer, hreply, hreply', ?_, fun _ => ⟨?_, rfl, answer.isSame_self⟩,
      fun h => absurd h hlatest⟩
    · rw [heffects']
      exact fun effect member => absurd member List.not_mem_nil
    · rw [Handling.engineCalls, Handling.engineCalls, heffects']
      exact hcalls

/-- The store has the results of version 1 beside the text of version 2. They
answer both requests, whatever another document does in between. -/
theorem repeated_request_late_fire :
    let note : Uri := ⟨"doc://note.cel"⟩
    let between : List Event := [.edit (.ofText note "a" 1), .parseNow (.ofText note "b" 2)]
    let scheduler := (initial.handleAll plainTexts lateFire).1
    let once := scheduler.handling plainTexts (.parseNow (.ofText page "1" 1))
    let again := (once.after.handleAll plainTexts between).1.handling plainTexts
      (.parseNow (.ofText page "1" 1))
    (plainTexts.config.allowList.classify page = some .source ∧
      (∀ event ∈ between, event.uri ≠ page) ∧
      ¬ scheduler.Supersedes (.ofText page "1" 1)) ∧
      ∃ answer, once.reply = .context answer ∧ again.reply = .context answer ∧
        once.engineCalls.length + again.engineCalls.length ≤ 1 := by
  intro note between scheduler once again
  have hkind : plainTexts.config.allowList.classify page = some .source := by decide
  have hothers : ∀ event ∈ between, event.uri ≠ page := by decide
  have hlatest : ¬ scheduler.Supersedes (.ofText page "1" 1) := by
    rintro ⟨stored, hstored, _, hother⟩
    obtain rfl := Option.some.inj hstored
    exact hother rfl
  obtain ⟨answer, _, hreply, hreply', _, hkept, _⟩ :=
    repeated_request plainTexts scheduler (.ofText page "1" 1) (.ofText page "1" 1) hkind rfl rfl
      hothers
  obtain ⟨hcalls, rfl, _⟩ := hkept hlatest
  exact ⟨⟨hkind, hothers, hlatest⟩, _, hreply, hreply', hcalls⟩

/-- A request for version 1 beside an edit of version 2, made twice, is parsed
twice and gives two contexts. -/
theorem superseded_request_parsed_twice :
    let scheduler := (initial.handleAll plainTexts [.edit (.ofText page "2" 2)]).1
    let once := scheduler.handling plainTexts (.parseNow (.ofText page "1" 1))
    let again := once.after.handling plainTexts (.parseNow (.ofText page "1" 1))
    plainTexts.config.allowList.classify page = some .source ∧
      once.engineCalls.length + again.engineCalls.length = 2 ∧
      ∃ answer repeated, once.reply = .context answer ∧ again.reply = .context repeated ∧
        repeated.isSame answer = false := by
  refine ⟨by decide, by decide, _, _, rfl, rfl, by decide +kernel⟩

end Scheduler

end CelWatch
