import CelWatch.Proofs.Schedule.Freshness

/-!
A scheduler without timers and without a cache. It parses, keeps and hands on
at every edit and at every immediate parse that is not older than what it has.
While timers wait, a scheduler that debounces has the same documents with the
same snapshots; it has the same results for each document of which no timer
waits.
-/

namespace CelWatch

variable {Tree Metadata : Type}

/-- What a context holds. Trees and metadata are values here and have no
identity. -/
structure Contents (Tree Metadata : Type) where
  snapshot : Snapshot
  path : FilePath
  tree : Option Tree
  metadata : Option Metadata
  diagnostics : List Diagnostic
  parsedVersion : Option Int

def Context.contents (context : Context Tree Metadata) : Contents Tree Metadata where
  snapshot := context.snapshot
  path := context.path
  tree := context.tree.map Shared.value
  metadata := context.metadata.map Shared.value
  diagnostics := context.diagnostics
  parsedVersion := context.parsedVersion

/-- A snapshot with the result of its parse. -/
def Contents.ofResult (snapshot : Snapshot) (result : ParseResult Tree Metadata) :
    Contents Tree Metadata where
  snapshot := snapshot
  path := snapshot.path
  tree := result.tree
  metadata := result.metadata
  diagnostics := result.diagnostics
  parsedVersion := some snapshot.version

theorem Context.contents_eq_ofResult {context : Context Tree Metadata}
    {result : ParseResult Tree Metadata}
    (hfresh : context.parsedVersion = some context.snapshot.version)
    (hpath : context.path = context.snapshot.path) (hshows : context.Shows result) :
    context.contents = .ofResult context.snapshot result := by
  simp only [contents, Contents.ofResult, hfresh, hpath, hshows.tree, hshows.metadata,
    hshows.diagnostics]

structure Eager (Tree Metadata : Type) where
  store : Registry Uri (Contents Tree Metadata)
  /-- The list that was handed on last. -/
  published : List Diagnostic

namespace Eager

def initial : Eager Tree Metadata := ⟨.empty, []⟩

/-- Takes a store for the present one, and hands on its diagnostics. -/
def publish (store : Registry Uri (Contents Tree Metadata)) : Eager Tree Metadata :=
  ⟨store, store.values.flatMap Contents.diagnostics⟩

/-- Parses a snapshot of a document that is on the allow list, and keeps the
result. -/
def parse (setup : Setup Tree Metadata) (eager : Eager Tree Metadata) (snapshot : Snapshot) :
    Eager Tree Metadata :=
  match setup.config.allowList.classify snapshot.uri with
  | none => eager
  | some kind =>
    let result := (setup.pipeline.run snapshot kind).1
    publish (eager.store.insert snapshot.uri (.ofResult snapshot result))

/-- What an event does. There are no timers, so a fire does nothing. -/
def step (setup : Setup Tree Metadata) (eager : Eager Tree Metadata) : Event → Eager Tree Metadata
  | .edit snapshot => eager.parse setup snapshot
  | .close uri => publish (eager.store.erase uri)
  | .parseNow snapshot =>
    match eager.store.get? snapshot.uri with
    | some stored =>
      if snapshot.version < stored.snapshot.version then eager else eager.parse setup snapshot
    | none => eager.parse setup snapshot
  | .cached _ | .timerFired _ _ => eager

def run (setup : Setup Tree Metadata) (events : List Event) : Eager Tree Metadata :=
  events.foldl (step setup) initial

/-- All contents are those of a parse of their snapshot, and their diagnostics
have been handed on. -/
structure Settled (setup : Setup Tree Metadata) (eager : Eager Tree Metadata) : Prop where
  published_eq : eager.published = eager.store.values.flatMap Contents.diagnostics
  parsed : ∀ uri contents, eager.store.get? uri = some contents →
    ∃ kind, setup.config.allowList.classify contents.snapshot.uri = some kind ∧
      contents = .ofResult contents.snapshot (setup.pipeline.run contents.snapshot kind).1

variable {setup : Setup Tree Metadata} {eager : Eager Tree Metadata}

theorem parse_settled (h : eager.Settled setup) (snapshot : Snapshot) :
    (eager.parse setup snapshot).Settled setup := by
  cases hkind : setup.config.allowList.classify snapshot.uri with
  | none => simpa only [parse, hkind] using h
  | some kind =>
      simp only [parse, hkind]
      refine ⟨rfl, ?_⟩
      intro uri contents hstored
      rcases Registry.get?_insert_eq_some hstored with ⟨_, rfl⟩ | ⟨_, hbefore⟩
      · exact ⟨kind, hkind, rfl⟩
      · exact h.parsed uri contents hbefore

theorem step_settled (h : eager.Settled setup) (event : Event) :
    (eager.step setup event).Settled setup := by
  cases event with
  | edit snapshot => exact parse_settled h snapshot
  | close closed =>
      refine ⟨rfl, ?_⟩
      intro uri contents hstored
      exact h.parsed uri contents (Registry.get?_erase_eq_some hstored).2
  | parseNow snapshot =>
      simp only [step]
      split
      · split
        · exact h
        · exact parse_settled h snapshot
      · exact parse_settled h snapshot
  | cached _ | timerFired _ _ => exact h

theorem run_settled (setup : Setup Tree Metadata) (events : List Event) :
    (run setup events).Settled setup := by
  have hinitial : (initial : Eager Tree Metadata).Settled setup := ⟨rfl, fun _ _ h => nomatch h⟩
  exact List.foldlRecOn events (step setup) hinitial fun _ h event _ => step_settled h event

/-- An immediate parse of an older snapshot than the stored one is not kept. -/
theorem step_parseNow_of_lt {snapshot : Snapshot} {contents : Contents Tree Metadata}
    (hstored : eager.store.get? snapshot.uri = some contents)
    (hversion : snapshot.version < contents.snapshot.version) :
    eager.step setup (.parseNow snapshot) = eager := by
  simp only [step, hstored, if_pos hversion]

theorem step_parseNow_of_le {snapshot : Snapshot}
    (hversion : ∀ contents, eager.store.get? snapshot.uri = some contents →
      contents.snapshot.version ≤ snapshot.version) :
    eager.step setup (.parseNow snapshot) = eager.parse setup snapshot := by
  cases hstored : eager.store.get? snapshot.uri with
  | none => simp only [step, hstored]
  | some contents => simp only [step, hstored, if_neg (Int.not_lt.mpr (hversion contents hstored))]

end Eager

/-- Two stores have the same documents in the same order, each with the same
snapshot. -/
structure Follows (store : Store Tree Metadata) (contents : Registry Uri (Contents Tree Metadata)) :
    Prop where
  keys_eq : store.keys = contents.keys
  snapshot_eq : ∀ uri,
    (store.get? uri).map Context.snapshot = (contents.get? uri).map Contents.snapshot

namespace Follows

variable {store : Store Tree Metadata} {kept : Registry Uri (Contents Tree Metadata)} {uri : Uri}
  {context : Context Tree Metadata} {contents : Contents Tree Metadata}

theorem exists_right (h : Follows store kept) (hstored : store.get? uri = some context) :
    ∃ contents, kept.get? uri = some contents ∧ contents.snapshot = context.snapshot := by
  have hsame := h.snapshot_eq uri
  rw [hstored, Option.map_some] at hsame
  exact Option.map_eq_some_iff.mp hsame.symm

theorem exists_left (h : Follows store kept) (hkept : kept.get? uri = some contents) :
    ∃ context, store.get? uri = some context ∧ context.snapshot = contents.snapshot := by
  have hsame := h.snapshot_eq uri
  rw [hkept, Option.map_some] at hsame
  exact Option.map_eq_some_iff.mp hsame

theorem insert (h : Follows store kept) (hsnapshot : context.snapshot = contents.snapshot) :
    Follows (store.insert uri context) (kept.insert uri contents) where
  keys_eq := by rw [Registry.keys_insert, Registry.keys_insert, h.keys_eq]
  snapshot_eq := by
    intro other
    by_cases hother : other = uri
    · subst hother
      simp [hsnapshot]
    · rw [Registry.get?_insert_of_ne _ _ hother, Registry.get?_insert_of_ne _ _ hother]
      exact h.snapshot_eq other

theorem erase (h : Follows store kept) (uri : Uri) :
    Follows (store.erase uri) (kept.erase uri) where
  keys_eq := by rw [Registry.keys_erase, Registry.keys_erase, h.keys_eq]
  snapshot_eq := by
    intro other
    by_cases hother : other = uri
    · subst hother
      simp
    · rw [Registry.get?_erase_of_ne _ hother, Registry.get?_erase_of_ne _ hother]
      exact h.snapshot_eq other

/-- New results for the stored snapshot. -/
theorem insert_left (h : Follows store kept) {next : Context Tree Metadata}
    (hstored : store.get? uri = some context) (hsnapshot : next.snapshot = context.snapshot) :
    Follows (store.insert uri next) kept where
  keys_eq := by
    have hmem : uri ∈ store.keys := (store.mem_keys_iff uri).mpr (by simp [hstored])
    rw [Registry.keys_insert, if_pos hmem, h.keys_eq]
  snapshot_eq := by
    intro other
    rw [← h.snapshot_eq other]
    by_cases hother : other = uri
    · subst hother
      simp [hstored, hsnapshot]
    · rw [Registry.get?_insert_of_ne _ _ hother]

theorem insert_right (h : Follows store kept) (hstored : store.get? uri = some context)
    (hsnapshot : contents.snapshot = context.snapshot) :
    Follows store (kept.insert uri contents) where
  keys_eq := by
    have hmem : uri ∈ store.keys := (store.mem_keys_iff uri).mpr (by simp [hstored])
    rw [h.keys_eq] at hmem
    rw [Registry.keys_insert, if_pos hmem, h.keys_eq]
  snapshot_eq := by
    intro other
    by_cases hother : other = uri
    · subst hother
      simp [hstored, hsnapshot]
    · rw [Registry.get?_insert_of_ne _ _ hother]
      exact h.snapshot_eq other

end Follows

namespace Scheduler

variable {setup : Setup Tree Metadata} {scheduler next : Scheduler Tree Metadata}
  {history : History} {event : Event} {reply : Reply Tree Metadata} {effects : List Effect}
  {eager : Eager Tree Metadata}

/-- One move and one eager step keep the snapshots the same. The cached answer
is where they differ most: nothing is stored, while the eager scheduler stores
the request again. The tended store then has the version of the request, and a
version tells submitted snapshots apart. -/
theorem Move.follows (h : Move setup scheduler event next reply effects)
    (hcoherent : (history.record event).Coherent) (hacc : scheduler.Accurate setup history)
    (htended : scheduler.Tended) (hfollows : Follows scheduler.store eager.store) :
    Follows next.store (eager.step setup event).store := by
  cases h with
  | ignore hkind => simpa only [Eager.step, Eager.parse, hkind] using hfollows
  | edit hkind =>
      simp only [Eager.step, Eager.parse, hkind]
      exact hfollows.insert (scheduler.received_snapshot _)
  | @close uri => exact hfollows.erase uri
  | fire hpending hkind hstored =>
      exact hfollows.insert_left hstored (Setup.parsed_snapshot _ _ _ _)
  | @decline snapshot hkind =>
      have hparse : eager.parse setup snapshot = eager := by simp only [Eager.parse, hkind]
      have hstep : eager.step setup (.parseNow snapshot) = eager := by
        simp only [Eager.step, hparse, ite_self]
        split <;> rfl
      rw [hstep]
      exact hfollows
  | @serve snapshot kind context hkind hstored hparsed hversion =>
      have hopen : Event.parseNow snapshot ≠ .close snapshot.uri := by simp
      have hmem := History.mem_record_of_mem hopen (hacc _ _ hstored).snapshot_mem
      have hsame : context.snapshot = snapshot :=
        hcoherent.eq hmem (history.mem_record_self rfl)
          (Int.le_antisymm hversion ((htended _ _ hstored).version_le _ hparsed))
      have hle : ∀ contents, eager.store.get? snapshot.uri = some contents →
          contents.snapshot.version ≤ snapshot.version := by
        intro contents hcontents
        obtain ⟨other, hother, hsnapshot⟩ := hfollows.exists_left hcontents
        obtain rfl := Option.some.inj (hstored.symm.trans hother)
        rw [← hsnapshot]
        exact hversion
      rw [Eager.step_parseNow_of_le hle]
      simp only [Eager.parse, hkind]
      exact hfollows.insert_right hstored hsame.symm
  | serveOlder hkind hstored hparsed hversion =>
      obtain ⟨contents, hcontents, hsnapshot⟩ := hfollows.exists_right hstored
      rw [Eager.step_parseNow_of_lt hcontents (hsnapshot ▸ hversion)]
      exact hfollows
  | supersede hkind hstored hparsed hversion =>
      obtain ⟨contents, hcontents, hsnapshot⟩ := hfollows.exists_right hstored
      rw [Eager.step_parseNow_of_lt hcontents (hsnapshot ▸ hversion)]
      exact hfollows
  | @refresh snapshot kind hkind hstored =>
      have hle : ∀ contents, eager.store.get? snapshot.uri = some contents →
          contents.snapshot.version ≤ snapshot.version := by
        intro contents hcontents
        obtain ⟨context, hcontext, hsnapshot⟩ := hfollows.exists_left hcontents
        rw [← hsnapshot]
        exact (hstored context hcontext).2
      rw [Eager.step_parseNow_of_le hle]
      simp only [Eager.parse, hkind]
      exact hfollows.insert (Setup.parsed_snapshot _ _ _ _)
  | _ => exact hfollows

/-- Callers that keep to the rules find the same documents with the same
snapshots in both schedulers, whichever timers have fired. -/
theorem handleAll_follows {events : List Event} (setup : Setup Tree Metadata)
    (hagree : TextsAgree events) (hascend : EditsAscend events) :
    Follows ((initial : Scheduler Tree Metadata).handleAll setup events).1.store
      (Eager.run setup events).store := by
  apply handleAll_induction setup initial events
    (P := fun done scheduler _ => Follows scheduler.store (Eager.run setup done).store)
  · exact ⟨rfl, fun _ => rfl⟩
  · intro done event rest next reply fresh hall hfollows move
    subst hall
    obtain ⟨hcoherent, hacc, htended⟩ := handleAll_accurate setup hagree.init
    have hnext := hcoherent.record hagree.at
    rw [Eager.run, List.foldl_append]
    exact move.follows hnext hacc (htended hascend.init) hfollows

/-- Where no timer waits, both schedulers hold the same. -/
theorem contents_eq_of_idle {events : List Event} (setup : Setup Tree Metadata)
    (hagree : TextsAgree events) (hascend : EditsAscend events)
    (hidle : ∀ uri, (initial.handleAll setup events).1.timers.pending.get? uri = none) (uri : Uri) :
    ((initial.handleAll setup events).1.store.get? uri).map Context.contents =
      (Eager.run setup events).store.get? uri := by
  obtain ⟨hcoherent, hacc, htended⟩ := handleAll_accurate setup hagree
  have hfollows := handleAll_follows setup hagree hascend
  cases hstored : (initial.handleAll setup events).1.store.get? uri with
  | none =>
      have hsame := hfollows.snapshot_eq uri
      rw [hstored] at hsame
      exact (Option.map_eq_none_iff.mp hsame.symm).symm
  | some context =>
      obtain ⟨contents, hcontents, hsnapshot⟩ := hfollows.exists_right hstored
      have hfresh : context.parsedVersion = some context.snapshot.version := by
        rcases (htended hascend uri context hstored).pending_or_fresh with hpending | hfresh
        · rw [hidle uri] at hpending
          cases hpending
        · exact hfresh
      have hcontext := hacc uri context hstored
      have hparse := hcontext.isParseOf hcoherent hcontext.snapshot_mem hfresh
      obtain ⟨kind, hkind, hshows⟩ := hparse
      obtain ⟨kind', hkind', hparsed⟩ :=
        (Eager.run_settled setup events).parsed uri contents hcontents
      rw [hsnapshot] at hkind' hparsed
      obtain rfl := Option.some.inj (hkind.symm.trans hkind')
      rw [hcontents, hparsed, Option.map_some]
      exact congrArg some (Context.contents_eq_ofResult hfresh hcontext.path_eq hshows)

end Scheduler

end CelWatch
