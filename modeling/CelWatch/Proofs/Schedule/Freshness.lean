import CelWatch.Proofs.Schedule.History
import CelWatch.Proofs.Schedule.Move

/-!
The results that a scheduler keeps are those of a snapshot that was submitted
with the version they are kept under. This needs no order of the versions, and
it is enough for an immediate parse never to answer with the results of
another text. Where edits have ascending versions, results that are not of the
stored snapshot have a timer that waits, so no edit is lost.
-/

namespace CelWatch

variable {Tree Metadata : Type}

/-- A context shows a result when tree, metadata and diagnostics are those of
the result; identities do not count. -/
structure Context.Shows (context : Context Tree Metadata) (result : ParseResult Tree Metadata) :
    Prop where
  tree : context.tree.map Shared.value = result.tree
  metadata : context.metadata.map Shared.value = result.metadata
  diagnostics : context.diagnostics = result.diagnostics

/-- The document is on the allow list, and the context shows what a parse of
the snapshot gives. -/
def Context.IsParseOf (context : Context Tree Metadata) (setup : Setup Tree Metadata)
    (snapshot : Snapshot) : Prop :=
  ∃ kind, setup.config.allowList.classify snapshot.uri = some kind ∧
    context.Shows (setup.pipeline.run snapshot kind).1

theorem ParseResult.store_shows (result : ParseResult Tree Metadata) (identity : Nat)
    (context : Context Tree Metadata) : (result.store identity context).Shows result where
  tree := by simp [ParseResult.store, Function.comp_def]
  metadata := by simp [ParseResult.store, Function.comp_def]
  diagnostics := rfl

@[simp] theorem Setup.parsed_snapshot (setup : Setup Tree Metadata) (identity : Nat)
    (context : Context Tree Metadata) (kind : DocumentKind) :
    (setup.parsed identity context kind).snapshot = context.snapshot := rfl

theorem Setup.parsed_isParseOf (setup : Setup Tree Metadata) (identity : Nat)
    (context : Context Tree Metadata) {kind : DocumentKind}
    (hkind : setup.config.allowList.classify context.snapshot.uri = some kind) :
    (setup.parsed identity context kind).IsParseOf setup context.snapshot :=
  ⟨kind, hkind, ParseResult.store_shows _ identity context⟩

/-- What holds of a stored context, given the snapshots submitted for its
document since the last close. -/
structure Context.Accurate (context : Context Tree Metadata) (setup : Setup Tree Metadata)
    (submitted : List Snapshot) : Prop where
  snapshot_mem : context.snapshot ∈ submitted
  path_eq : context.path = context.snapshot.path
  allowed : ∃ kind, setup.config.allowList.classify context.snapshot.uri = some kind
  results : ∀ version, context.parsedVersion = some version →
    ∃ snapshot ∈ submitted, snapshot.version = version ∧ context.IsParseOf setup snapshot

/-- What holds of a stored context where edits ascend, given the timer that is
pending for its document. -/
structure Context.Tended (context : Context Tree Metadata) (pending : Option Nat) : Prop where
  version_le : ∀ version, context.parsedVersion = some version →
    version ≤ context.snapshot.version
  pending_or_fresh : pending.isSome ∨ context.parsedVersion = some context.snapshot.version

namespace Context

theorem Accurate.mono {context : Context Tree Metadata} {setup : Setup Tree Metadata}
    {submitted more : List Snapshot} (h : context.Accurate setup submitted)
    (hmore : ∀ snapshot ∈ submitted, snapshot ∈ more) : context.Accurate setup more where
  snapshot_mem := hmore _ h.snapshot_mem
  path_eq := h.path_eq
  allowed := h.allowed
  results := by
    intro version hversion
    obtain ⟨snapshot, member, hparse⟩ := h.results version hversion
    exact ⟨snapshot, hmore snapshot member, hparse⟩

theorem Accurate.update {context : Context Tree Metadata} {setup : Setup Tree Metadata}
    {submitted : List Snapshot} (h : context.Accurate setup submitted) {snapshot : Snapshot}
    {kind : DocumentKind} (hkind : setup.config.allowList.classify snapshot.uri = some kind)
    (hmem : snapshot ∈ submitted) : (context.update snapshot).Accurate setup submitted where
  snapshot_mem := hmem
  path_eq := rfl
  allowed := ⟨kind, hkind⟩
  results := by
    intro version hversion
    obtain ⟨source, member, hsame, source_kind, hclass, hshows⟩ := h.results version hversion
    exact ⟨source, member, hsame, source_kind, hclass,
      ⟨hshows.tree, hshows.metadata, hshows.diagnostics⟩⟩

theorem accurate_unparsed {setup : Setup Tree Metadata} {submitted : List Snapshot}
    {snapshot : Snapshot} {kind : DocumentKind}
    (hkind : setup.config.allowList.classify snapshot.uri = some kind)
    (hmem : snapshot ∈ submitted) :
    (unparsed snapshot : Context Tree Metadata).Accurate setup submitted where
  snapshot_mem := hmem
  path_eq := rfl
  allowed := ⟨kind, hkind⟩
  results := fun _ h => nomatch h

theorem Accurate.parsed {context : Context Tree Metadata} {setup : Setup Tree Metadata}
    {submitted : List Snapshot} (h : context.Accurate setup submitted) {kind : DocumentKind}
    (hkind : setup.config.allowList.classify context.snapshot.uri = some kind) (identity : Nat) :
    (setup.parsed identity context kind).Accurate setup submitted where
  snapshot_mem := h.snapshot_mem
  path_eq := h.path_eq
  allowed := ⟨kind, hkind⟩
  results := by
    intro version hversion
    have hsame : context.snapshot.version = version := Option.some.inj hversion
    exact ⟨context.snapshot, h.snapshot_mem, hsame, setup.parsed_isParseOf identity context hkind⟩

/-- Where versions tell submitted snapshots apart, results kept under the
version of one are the results of that one. -/
theorem Accurate.isParseOf {context : Context Tree Metadata} {setup : Setup Tree Metadata}
    {history : History} {uri : Uri} (h : context.Accurate setup (history uri))
    (hcoherent : history.Coherent) {snapshot : Snapshot} (hmem : snapshot ∈ history uri)
    (hversion : context.parsedVersion = some snapshot.version) :
    context.IsParseOf setup snapshot := by
  obtain ⟨source, member, hsame, hparse⟩ := h.results _ hversion
  exact hcoherent.eq member hmem hsame ▸ hparse

theorem tended_parsed (setup : Setup Tree Metadata) (identity : Nat)
    (context : Context Tree Metadata) (kind : DocumentKind) (pending : Option Nat) :
    (setup.parsed identity context kind).Tended pending where
  version_le := by
    intro version hversion
    have hsame : context.snapshot.version = version := Option.some.inj hversion
    exact hsame ▸ Int.le_refl _
  pending_or_fresh := .inr rfl

end Context

namespace Scheduler

variable {setup : Setup Tree Metadata} {scheduler next : Scheduler Tree Metadata}
  {history : History} {event : Event} {reply : Reply Tree Metadata} {effects : List Effect}

def Accurate (setup : Setup Tree Metadata) (history : History)
    (scheduler : Scheduler Tree Metadata) : Prop :=
  ∀ uri context, scheduler.store.get? uri = some context → context.Accurate setup (history uri)

def Tended (scheduler : Scheduler Tree Metadata) : Prop :=
  ∀ uri context, scheduler.store.get? uri = some context →
    context.Tended (scheduler.timers.pending.get? uri)

theorem received_accurate (hacc : scheduler.Accurate setup history) {snapshot : Snapshot}
    {kind : DocumentKind} (hkind : setup.config.allowList.classify snapshot.uri = some kind) :
    (scheduler.received snapshot).Accurate setup
      (history.record (.edit snapshot) snapshot.uri) := by
  have hmem : snapshot ∈ history.record (.edit snapshot) snapshot.uri :=
    history.mem_record_self rfl
  unfold received
  cases hstored : scheduler.store.get? snapshot.uri with
  | none => exact Context.accurate_unparsed hkind hmem
  | some context =>
      have hopen : Event.edit snapshot ≠ .close snapshot.uri := by simp
      have hold := (hacc _ _ hstored).mono fun _ member =>
        History.mem_record_of_mem hopen member
      exact hold.update hkind hmem

/-- A move keeps the stored contexts accurate. The results that it stores are
of a snapshot that it has in hand; all others were accurate before. -/
theorem Move.accurate (h : Move setup scheduler event next reply effects)
    (hcoherent : history.Coherent) (hacc : scheduler.Accurate setup history) :
    next.Accurate setup (history.record event) := by
  have hkept : ∀ uri context, event ≠ .close uri → scheduler.store.get? uri = some context →
      context.Accurate setup (history.record event uri) := fun uri context hopen hstored =>
    (hacc uri context hstored).mono fun _ member => History.mem_record_of_mem hopen member
  intro uri context hstored
  by_cases huri : uri = event.uri
  · subst huri
    cases h with
    | edit hkind =>
        obtain rfl := Registry.eq_of_get?_insert_self hstored
        exact received_accurate hacc hkind
    | close => exact absurd rfl (Registry.get?_erase_eq_some hstored).1
    | fire hpending hkind hbefore =>
        obtain rfl := Registry.eq_of_get?_insert_self hstored
        have hold := hacc _ _ hbefore
        have hkind' := (hcoherent.uri_eq hold.snapshot_mem).symm ▸ hkind
        exact hold.parsed hkind' _
    | refresh hkind hbefore =>
        obtain rfl := Registry.eq_of_get?_insert_self hstored
        exact (Context.accurate_unparsed hkind (history.mem_record_self rfl)).parsed hkind _
    | _ => exact hkept _ _ (by simp) hstored
  · have hopen : event ≠ .close uri := fun hclose => huri (hclose ▸ rfl)
    rw [h.get?_of_ne huri] at hstored
    exact hkept uri context hopen hstored

/-- A move keeps the stored contexts tended: it takes a timer away only from a
context that is fresh afterwards. -/
theorem Move.tended (h : Move setup scheduler event next reply effects)
    (hcoherent : history.Coherent) (hacc : scheduler.Accurate setup history)
    (hexceeds : Exceeds history event) (htended : scheduler.Tended) : next.Tended := by
  intro uri context hstored
  by_cases huri : uri = event.uri
  · subst huri
    cases h with
    | @edit snapshot kind hkind =>
        obtain rfl := Registry.eq_of_get?_insert_self hstored
        refine ⟨?_, .inl (by simp [Event.uri, Timers.arm])⟩
        intro version hversion
        unfold received at hversion ⊢
        cases hbefore : scheduler.store.get? snapshot.uri with
        | none =>
            rw [hbefore] at hversion
            cases hversion
        | some before =>
            rw [hbefore] at hversion
            obtain ⟨source, member, rfl, _⟩ := (hacc _ _ hbefore).results version hversion
            exact Int.le_of_lt (hexceeds source member)
    | close => exact absurd rfl (Registry.get?_erase_eq_some hstored).1
    | idle hpending huntracked =>
        -- A stored document is on the allow list, so there was something to parse.
        have hold := hacc _ _ hstored
        obtain ⟨kind, hkind⟩ := hold.allowed
        rw [hcoherent.uri_eq hold.snapshot_mem] at hkind
        rcases huntracked with hnone | hnone
        · cases hnone.symm.trans hkind
        · cases hnone.symm.trans hstored
    | fire hpending hkind hbefore =>
        obtain rfl := Registry.eq_of_get?_insert_self hstored
        exact Context.tended_parsed _ _ _ _ _
    | @serve snapshot kind before hkind hbefore hparsed hversion =>
        obtain rfl := Option.some.inj (hbefore.symm.trans hstored)
        have hold := htended _ _ hbefore
        have hsame : before.snapshot.version = snapshot.version :=
          Int.le_antisymm hversion (hold.version_le _ hparsed)
        exact ⟨hold.version_le, .inr (hsame ▸ hparsed)⟩
    | refresh hkind hbefore =>
        obtain rfl := Registry.eq_of_get?_insert_self hstored
        exact Context.tended_parsed _ _ _ _ _
    | _ => exact htended _ _ hstored
  · rw [h.get?_of_ne huri] at hstored
    rw [h.pending_of_ne huri]
    exact htended uri context hstored

/-- The answer to an immediate parse is for the snapshot that was handed over,
whichever way it is found. -/
theorem Move.answer {snapshot : Snapshot} {kind : DocumentKind}
    (h : Move setup scheduler (.parseNow snapshot) next reply effects)
    (hkind : setup.config.allowList.classify snapshot.uri = some kind)
    (hcoherent : (history.record (.parseNow snapshot)).Coherent)
    (hacc : scheduler.Accurate setup history) :
    ∃ context, reply = .context context ∧
      context.parsedVersion = some snapshot.version ∧ context.IsParseOf setup snapshot ∧
      (context.snapshot = snapshot ∨ ∃ stored, scheduler.store.get? snapshot.uri = some stored ∧
        context.snapshot = stored.snapshot) ∧
      (context.isFresh = true → context.IsParseOf setup context.snapshot) := by
  have hstored : ∀ context, scheduler.store.get? snapshot.uri = some context →
      context.parsedVersion = some snapshot.version →
      context.IsParseOf setup snapshot ∧
        (context.isFresh = true → context.IsParseOf setup context.snapshot) := by
    intro context hcontext hparsed
    have hopen : Event.parseNow snapshot ≠ .close snapshot.uri := by simp
    have hold := (hacc _ _ hcontext).mono fun _ member =>
      History.mem_record_of_mem hopen member
    refine ⟨hold.isParseOf hcoherent (history.mem_record_self rfl) hparsed, ?_⟩
    intro hfresh
    exact hold.isParseOf hcoherent hold.snapshot_mem (Context.isParsedAt_iff.mp hfresh)
  have hparse : ∀ kind, setup.config.allowList.classify snapshot.uri = some kind →
      let context := setup.parsed scheduler.parses (.unparsed snapshot) kind
      context.snapshot = snapshot ∧ context.IsParseOf setup snapshot ∧
        (context.isFresh = true → context.IsParseOf setup context.snapshot) := by
    intro kind hclass context
    have hsnapshot : context.snapshot = snapshot := rfl
    have hanswer : context.IsParseOf setup snapshot :=
      setup.parsed_isParseOf scheduler.parses (.unparsed snapshot) hclass
    refine ⟨hsnapshot, hanswer, ?_⟩
    intro _
    rwa [hsnapshot]
  cases h with
  | decline hnone => cases hnone.symm.trans hkind
  | @serve _ _ context _ hcontext hparsed _ =>
      obtain ⟨hanswer, hfresh⟩ := hstored context hcontext hparsed
      exact ⟨context, rfl, hparsed, hanswer, .inr ⟨context, hcontext, rfl⟩, hfresh⟩
  | @serveOlder _ _ context _ hcontext hparsed _ =>
      obtain ⟨hanswer, hfresh⟩ := hstored context hcontext hparsed
      exact ⟨context, rfl, hparsed, hanswer, .inr ⟨context, hcontext, rfl⟩, hfresh⟩
  | supersede hclass _ _ _ =>
      obtain ⟨hsnapshot, hanswer, hfresh⟩ := hparse _ hclass
      exact ⟨_, rfl, rfl, hanswer, .inl hsnapshot, hfresh⟩
  | refresh hclass _ =>
      obtain ⟨hsnapshot, hanswer, hfresh⟩ := hparse _ hclass
      exact ⟨_, rfl, rfl, hanswer, .inl hsnapshot, hfresh⟩

/-- What holds along every run of which the requests agree, whatever the order
of their versions; and what more holds where edits ascend. -/
theorem handleAll_accurate {events : List Event} (setup : Setup Tree Metadata)
    (hagree : TextsAgree events) :
    let scheduler := ((initial : Scheduler Tree Metadata).handleAll setup events).1
    (History.ofEvents events).Coherent ∧ scheduler.Accurate setup (.ofEvents events) ∧
      (EditsAscend events → scheduler.Tended) := by
  apply handleAll_induction setup initial events
    (P := fun done scheduler _ => (History.ofEvents done).Coherent ∧
      scheduler.Accurate setup (.ofEvents done) ∧ (EditsAscend events → scheduler.Tended))
  · refine ⟨History.coherent_empty, ?_, ?_⟩
    · intro uri context hstored
      cases hstored
    · intro _ uri context hstored
      cases hstored
  · intro done event rest next reply fresh hall h move
    subst hall
    obtain ⟨hcoherent, hacc, htended⟩ := h
    rw [History.ofEvents_concat]
    refine ⟨hcoherent.record hagree.at, move.accurate hcoherent hacc, ?_⟩
    intro hascend
    exact move.tended hcoherent hacc hascend.at (htended hascend)

/-- A language in which every text but the empty one is a tree. -/
def plainTexts : Setup String Nat where
  config := ⟨defaultDebounce, .standard⟩
  pipeline := {
    engine := ⟨"plain", fun text _ _ =>
      if text = "" then .ok (.syntaxError .first "empty text") else .ok (.parsed text [])⟩
    extractor := ⟨fun tree => .ok tree.length⟩ }

def page : Uri := ⟨"doc://page.cel"⟩

def lateFire : List Event := [
  .edit (.ofText page "1" 1),
  .timerFired page 1,
  .edit (.ofText page "2" 2),
  .timerFired page 1]

/-- No edit is lost. Whatever the order of the events, and whichever fires come
late or twice: results are never of a later version than the stored snapshot;
they are of that snapshot or a timer waits; and they are always those of the
snapshot that was submitted with their version. -/
theorem no_edit_lost (setup : Setup Tree Metadata) (events : List Event)
    (hagree : TextsAgree events) (hascend : EditsAscend events) (uri : Uri) (context : Context Tree Metadata)
    (hstored : (initial.handleAll setup events).1.store.get? uri = some context) :
    (∀ version, context.parsedVersion = some version → version ≤ context.snapshot.version) ∧
      ((initial.handleAll setup events).1.timers.isPending uri = true ∨
        context.parsedVersion = some context.snapshot.version ∧
          context.IsParseOf setup context.snapshot) ∧
      ∀ version, context.parsedVersion = some version →
        (∃ snapshot ∈ History.ofEvents events uri, snapshot.version = version) ∧
          ∀ snapshot ∈ History.ofEvents events uri, snapshot.version = version →
            context.IsParseOf setup snapshot := by
  obtain ⟨hcoherent, hacc, htended⟩ := handleAll_accurate setup hagree
  have hcontext := hacc uri context hstored
  have hcare := htended hascend uri context hstored
  refine ⟨hcare.version_le, ?_, ?_⟩
  · rcases hcare.pending_or_fresh with hpending | hfresh
    · exact .inl hpending
    · exact .inr ⟨hfresh, hcontext.isParseOf hcoherent hcontext.snapshot_mem hfresh⟩
  · intro version hversion
    obtain ⟨source, member, hsame, _⟩ := hcontext.results version hversion
    refine ⟨⟨source, member, hsame⟩, ?_⟩
    intro snapshot hmem hsnapshot
    exact hcontext.isParseOf hcoherent hmem (hsnapshot ▸ hversion)

/-- The first edit was parsed and its fire comes again when the second edit
waits: the context has the new snapshot and still the results of the old. -/
theorem no_edit_lost_late_fire :
    (TextsAgree lateFire ∧ EditsAscend lateFire) ∧
      ∃ context, (initial.handleAll plainTexts lateFire).1.store.get? page = some context ∧
        context.snapshot.version = 2 ∧ context.parsedVersion = some 1 ∧
        (initial.handleAll plainTexts lateFire).1.timers.isPending page = true ∧
        context.IsParseOf plainTexts (.ofText page "1" 1) := by
  have hagree : TextsAgree lateFire := by decide
  have hascend : EditsAscend lateFire := by decide
  refine ⟨⟨hagree, hascend⟩, _, rfl, rfl, rfl, by decide, ?_⟩
  have hmem : Snapshot.ofText page "1" 1 ∈ History.ofEvents lateFire page := by
    simp [History.ofEvents, History.record, History.empty, lateFire, Snapshot.ofText]
  have hkept := (no_edit_lost plainTexts lateFire hagree hascend page _ rfl).2.2
  exact (hkept 1 rfl).2 (.ofText page "1" 1) hmem rfl

/-- An immediate parse never answers with results of another text. Whichever
way the answer is found, it is the result for the snapshot that was handed
over; it comes with that snapshot or with the stored one; and an answer that
counts as fresh has the results of the text that it comes with. The versions
need not ascend. -/
theorem parseNow_never_stale (setup : Setup Tree Metadata) (events : List Event)
    (snapshot : Snapshot) {kind : DocumentKind}
    (hkind : setup.config.allowList.classify snapshot.uri = some kind)
    (hagree : TextsAgree (events ++ [.parseNow snapshot])) :
    let scheduler := ((initial : Scheduler Tree Metadata).handleAll setup events).1
    ∃ context, (scheduler.step setup (.parseNow snapshot)).2.1 = .context context ∧
      context.parsedVersion = some snapshot.version ∧ context.IsParseOf setup snapshot ∧
      (context.snapshot = snapshot ∨ ∃ stored, scheduler.store.get? snapshot.uri = some stored ∧
        context.snapshot = stored.snapshot) ∧
      (context.isFresh = true → context.IsParseOf setup context.snapshot) := by
  have hcoherent := (handleAll_accurate setup hagree).1
  rw [History.ofEvents_concat] at hcoherent
  have hacc := (handleAll_accurate setup hagree.init).2.1
  exact (step_move setup _ (.parseNow snapshot)).answer hkind hcoherent hacc

/-- The results of version 1 are in the store beside the text of version 2, and
a request for version 1 is answered with them. -/
theorem parseNow_never_stale_late_fire :
    (plainTexts.config.allowList.classify page = some .source ∧
      TextsAgree (lateFire ++ [.parseNow (.ofText page "1" 1)])) ∧
      ∃ context, ((initial.handleAll plainTexts lateFire).1.step plainTexts
          (.parseNow (.ofText page "1" 1))).2.1 = .context context ∧
        context.parsedVersion = some 1 ∧ context.IsParseOf plainTexts (.ofText page "1" 1) := by
  have hkind : plainTexts.config.allowList.classify page = some .source := by decide
  have hagree : TextsAgree (lateFire ++ [.parseNow (.ofText page "1" 1)]) := by decide
  obtain ⟨context, hreply, hversion, hparse, _⟩ :=
    parseNow_never_stale plainTexts lateFire (.ofText page "1" 1) hkind hagree
  exact ⟨⟨hkind, hagree⟩, context, hreply, hversion, hparse⟩

end Scheduler

end CelWatch
