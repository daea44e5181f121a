import Mathlib.Order.Monotone.Basic
import CelWatch.Proofs.Schedule.Tracking

/-!
Two schedulers that hold the same of some documents. They need not have the
same numbers for timers and parses, because all documents draw theirs from one
counter: what one scheduler gives to other documents the second may not give at
all. So the contents are compared up to a renaming of generations and
identities, and an event of the documents is handled in the same way by both.
-/

namespace CelWatch

variable {Tree Metadata : Type}

/-- Other numbers for the generations of timers, and for the identities of
trees and metadata. -/
structure Renaming where
  generation : Nat → Nat
  identity : Nat → Nat

/-- No order is changed, so no two numbers fall together. -/
structure Renaming.Ascends (names : Renaming) : Prop where
  generation : StrictMono names.generation
  identity : StrictMono names.identity

/-- The places of the marks that are set, in their order. Past the last mark
every place counts as set. -/
def place : List Bool → Nat → Nat
  | [], n => n
  | false :: rest, n => place rest n + 1
  | true :: _, 0 => 0
  | true :: rest, n + 1 => place rest n + 1

theorem place_strictMono (marks : List Bool) : StrictMono (place marks) := by
  induction marks with
  | nil => exact strictMono_id
  | cons mark rest ih =>
      cases mark with
      | false => exact fun _ _ hlt => Nat.succ_lt_succ (ih hlt)
      | true =>
          refine strictMono_nat_of_lt_succ fun n => ?_
          cases n with
          | zero => exact Nat.succ_pos _
          | succ n => exact Nat.succ_lt_succ (ih (Nat.lt_succ_self n))

/-- The first marks that are set stand where they are counted. -/
theorem place_replicate_append (count : Nat) (marks : List Bool) (n : Nat) :
    (n < count → place (List.replicate count true ++ marks) n = n) ∧
      place (List.replicate count true ++ marks) (count + n) = count + place marks n := by
  induction count generalizing n with
  | zero => simp
  | succ count ih =>
      rw [List.replicate_succ, List.cons_append]
      constructor
      · intro hlt
        cases n with
        | zero => rfl
        | succ n => rw [place, (ih n).1 (Nat.lt_of_succ_lt_succ hlt)]
      · have hlast := (ih n).2
        rw [Nat.add_right_comm, place, hlast]
        omega

/-- From `m` on, a function has the places of the marks that are set, where the
first mark has the place `n`. -/
def Continues (f : Nat → Nat) : Nat → Nat → List Bool → Prop
  | _, _, [] => True
  | m, n, true :: rest => f m = n ∧ Continues f (m + 1) (n + 1) rest
  | m, n, false :: rest => Continues f m (n + 1) rest

namespace Continues

variable {f : Nat → Nat} {m n count : Nat} {marks later : List Bool}

theorem of_place (h : ∀ k, f (m + k) = n + place marks k) : Continues f m n marks := by
  induction marks generalizing m n with
  | nil => trivial
  | cons mark rest ih =>
      cases mark with
      | false =>
          refine ih fun k => ?_
          rw [h k, place]
          omega
      | true =>
          refine ⟨h 0, ih fun k => ?_⟩
          have hnext := h (k + 1)
          rw [place] at hnext
          rw [Nat.add_right_comm, Nat.add_assoc, hnext]
          omega

theorem of_all (h : ∀ mark ∈ marks, mark = true) : Continues id m m marks := by
  induction marks generalizing m with
  | nil => trivial
  | cons mark rest ih =>
      obtain rfl := h mark List.mem_cons_self
      exact ⟨rfl, ih fun other member => h other (List.mem_cons_of_mem _ member)⟩

theorem init (h : Continues f m n (marks ++ later)) : Continues f m n marks := by
  induction marks generalizing m n with
  | nil => trivial
  | cons mark rest ih =>
      cases mark with
      | false => exact ih (m := m) h
      | true => exact ⟨h.1, ih h.2⟩

theorem skip (h : Continues f m n (List.replicate count false ++ marks)) :
    Continues f m (n + count) marks := by
  induction count generalizing n with
  | zero => exact h
  | succ count ih =>
      have hrest := ih (n := n + 1) h
      rwa [Nat.add_right_comm] at hrest

theorem next (h : Continues f m n (List.replicate count true ++ marks)) :
    (count ≠ 0 → f m = n) ∧ Continues f (m + count) (n + count) marks := by
  induction count generalizing m n with
  | zero => exact ⟨fun hzero => absurd rfl hzero, h⟩
  | succ count ih =>
      have hrest := (ih h.2).2
      rw [Nat.add_right_comm, Nat.add_right_comm n] at hrest
      exact ⟨fun _ => h.1, hrest⟩

end Continues

def Shared.rename {α : Type} (names : Renaming) (shared : Shared α) : Shared α :=
  ⟨names.identity shared.identity, shared.value⟩

def Context.rename (names : Renaming) (context : Context Tree Metadata) : Context Tree Metadata :=
  { context with
    tree := context.tree.map (.rename names)
    metadata := context.metadata.map (.rename names) }

theorem Context.rename_id :
    Context.rename ⟨id, id⟩ = (id : Context Tree Metadata → Context Tree Metadata) := by
  funext context
  have hshared : ∀ {α : Type} (result : Option (Shared α)),
      result.map (.rename ⟨id, id⟩) = result := fun _ => Option.map_id'
  rw [rename, hshared, hshared, id]

def Reply.rename (names : Renaming) : Reply Tree Metadata → Reply Tree Metadata
  | .none => .none
  | .context answer => .context (answer.rename names)
  | .cached stored => .cached (stored.map (.rename names))

def Event.rename (names : Renaming) : Event → Event
  | .timerFired uri generation => .timerFired uri (names.generation generation)
  | .edit snapshot => .edit snapshot
  | .close uri => .close uri
  | .parseNow snapshot => .parseNow snapshot
  | .cached uri => .cached uri

@[simp] theorem Event.rename_uri (names : Renaming) (event : Event) :
    (event.rename names).uri = event.uri := by
  cases event with
  | _ => rfl

@[simp] theorem Setup.parsed_rename (setup : Setup Tree Metadata) (names : Renaming)
    (identity : Nat) (context : Context Tree Metadata) (kind : DocumentKind) :
    (setup.parsed identity context kind).rename names =
      setup.parsed (names.identity identity) (context.rename names) kind := by
  simp [Setup.parsed, ParseResult.store, Context.rename, Shared.rename, Function.comp_def]

/-- On some keys the second registry has what the first has, changed by a
function. -/
def Registry.Mirrors {κ α β : Type} [DecidableEq κ] (among : κ → Bool) (f : α → β)
    (first : Registry κ α) (second : Registry κ β) : Prop :=
  ∀ key, among key = true → second.get? key = (first.get? key).map f

namespace Registry.Mirrors

variable {κ α β : Type} [DecidableEq κ] {among : κ → Bool} {f : α → β}
  {first next : Registry κ α} {second other : Registry κ β}

theorem insert (h : Registry.Mirrors among f first second) (key : κ) {value : α} {image : β}
    (himage : image = f value) :
    Registry.Mirrors among f (first.insert key value) (second.insert key image) := by
  intro k hk
  by_cases hkey : k = key
  · subst hkey
    simp [himage]
  · rw [get?_insert_of_ne _ _ hkey, get?_insert_of_ne _ _ hkey]
    exact h k hk

theorem erase (h : Registry.Mirrors among f first second) (key : κ) :
    Registry.Mirrors among f (first.erase key) (second.erase key) := by
  intro k hk
  by_cases hkey : k = key
  · subst hkey
    simp
  · rw [get?_erase_of_ne _ hkey, get?_erase_of_ne _ hkey]
    exact h k hk

end Registry.Mirrors

/-- The number of timers that an event starts; it is the same in every state. -/
def Event.arms (setup : Setup Tree Metadata) : Event → Nat
  | .edit snapshot => if (setup.config.allowList.classify snapshot.uri).isSome then 1 else 0
  | .close _ | .parseNow _ | .cached _ | .timerFired _ _ => 0

@[simp] theorem Event.rename_arms (setup : Setup Tree Metadata) (names : Renaming)
    (event : Event) : (event.rename names).arms setup = event.arms setup := by
  cases event with
  | _ => rfl

/-- The numbers of the results in a context are below a count. -/
structure Context.NumberedBelow (context : Context Tree Metadata) (count : Nat) : Prop where
  tree : ∀ tree ∈ context.tree, tree.identity < count
  metadata : ∀ metadata ∈ context.metadata, metadata.identity < count

theorem Context.numberedBelow_unparsed (snapshot : Snapshot) (count : Nat) :
    (unparsed snapshot : Context Tree Metadata).NumberedBelow count where
  tree := fun _ member => nomatch member
  metadata := fun _ member => nomatch member

theorem Context.NumberedBelow.update {context : Context Tree Metadata} {count : Nat}
    (h : context.NumberedBelow count) (snapshot : Snapshot) :
    (context.update snapshot).NumberedBelow count where
  tree := h.tree
  metadata := h.metadata

theorem Context.numberedBelow_parsed (setup : Setup Tree Metadata) (identity : Nat)
    (context : Context Tree Metadata) (kind : DocumentKind) :
    (setup.parsed identity context kind).NumberedBelow (identity + 1) := by
  constructor
  · intro tree member
    obtain ⟨_, _, rfl⟩ := Option.map_eq_some_iff.mp member
    exact Nat.lt_succ_self identity
  · intro metadata member
    obtain ⟨_, _, rfl⟩ := Option.map_eq_some_iff.mp member
    exact Nat.lt_succ_self identity

theorem Context.NumberedBelow.rename_eq {context : Context Tree Metadata} {count : Nat}
    (h : context.NumberedBelow count) {names : Renaming}
    (hnames : ∀ number < count, names.identity number = number) :
    context.rename names = context := by
  have hshared : ∀ {α : Type} (result : Option (Shared α)),
      (∀ shared ∈ result, shared.identity < count) → result.map (.rename names) = result := by
    intro α result hbelow
    cases result with
    | none => rfl
    | some shared => simp [Shared.rename, hnames _ (hbelow shared rfl)]
  rw [Context.rename, hshared _ h.tree, hshared _ h.metadata]

namespace Scheduler

variable {setup : Setup Tree Metadata} {among : Uri → Bool} {names : Renaming}
  {scheduler next small big : Scheduler Tree Metadata} {event : Event}
  {reply : Reply Tree Metadata} {effects : List Effect}

/-- The second scheduler holds the contexts and the timers of some documents
that the first holds, under other names. -/
structure Mirrors (among : Uri → Bool) (names : Renaming)
    (small big : Scheduler Tree Metadata) : Prop where
  store : small.store.Mirrors among (Context.rename names) big.store
  pending : small.timers.pending.Mirrors among names.generation big.timers.pending

theorem Move.handling_eq (h : Move setup scheduler event next reply effects) :
    scheduler.handling setup event = ⟨event, scheduler, next, reply, effects⟩ := by
  rw [handling, h.eq_step]

theorem Move.armed_eq (h : Move setup scheduler event next reply effects) :
    next.timers.armed = scheduler.timers.armed + event.arms setup := by
  cases h with
  | ignore hkind => simp [Event.arms, hkind]
  | edit hkind => simp [Event.arms, hkind, Timers.arm]
  | _ => rfl

theorem Move.parses_eq (h : Move setup scheduler event next reply effects) :
    next.parses = scheduler.parses + (effects.filterMap Effect.engineCall?).length := by
  rw [engineCalls_of_work]
  rcases h.work_cases with ⟨hidle, hparses⟩ | ⟨snapshot, kind, hwork, hparses, _⟩
  · rw [hidle, hparses]
    rfl
  · rw [hwork, hparses, Pipeline.run_engineCalls]
    rfl

/-- Every parse has the next number. -/
theorem handleAll_numberedBelow (setup : Setup Tree Metadata) (events : List Event) :
    let scheduler := (initial.handleAll setup events).1
    ∀ uri context, scheduler.store.get? uri = some context →
      context.NumberedBelow scheduler.parses := by
  apply handleAll_induction setup initial events
    (P := fun _ scheduler _ => ∀ uri context, scheduler.store.get? uri = some context →
      context.NumberedBelow scheduler.parses)
  · intro uri context hstored
    cases hstored
  · intro done event rest next reply fresh _ h move uri context hstored
    have hle : (initial.handleAll setup done).1.parses ≤ next.parses := by
      rw [move.parses_eq]
      exact Nat.le_add_right _ _
    have hmono : ∀ uri context, (initial.handleAll setup done).1.store.get? uri = some context →
        context.NumberedBelow next.parses := by
      intro uri context hbefore
      have hold := h uri context hbefore
      exact ⟨fun tree member => Nat.lt_of_lt_of_le (hold.tree tree member) hle,
        fun metadata member => Nat.lt_of_lt_of_le (hold.metadata metadata member) hle⟩
    rcases move.stored_cases hstored with hbefore | ⟨snapshot, _, _, rfl⟩ |
      ⟨source, kind, rfl, hnext, _⟩
    · exact hmono uri context hbefore
    · unfold received
      split
      · next old hbefore => exact (hmono _ _ hbefore).update _
      · exact Context.numberedBelow_unparsed _ _
    · rw [hnext]
      exact Context.numberedBelow_parsed setup _ source kind

theorem Mirrors.received (hm : Mirrors among names small big) {snapshot : Snapshot}
    (hamong : among snapshot.uri = true) :
    big.received snapshot = (small.received snapshot).rename names := by
  unfold Scheduler.received
  rw [hm.store _ hamong]
  cases small.store.get? snapshot.uri with
  | none => rfl
  | some context => rfl

/-- The events of other documents change nothing here. -/
theorem Mirrors.outside (hm : Mirrors among names small big)
    (h : Move setup big event next reply effects) (hamong : among event.uri = false) :
    Mirrors among names small next := by
  have hne : ∀ uri, among uri = true → uri ≠ event.uri := by
    rintro uri hin rfl
    cases hin.symm.trans hamong
  constructor
  · intro uri hin
    rw [h.get?_of_ne (hne uri hin)]
    exact hm.store uri hin
  · intro uri hin
    rw [h.pending_of_ne (hne uri hin)]
    exact hm.pending uri hin

theorem Mirrors.keep (hm : Mirrors among names small big) (uri : Uri)
    {context image : Context Tree Metadata} (himage : image = context.rename names)
    (hparses : names.identity small.parses = big.parses) (kind : DocumentKind) :
    Mirrors among names (small.keep setup uri context kind) (big.keep setup uri image kind) where
  store := by
    refine hm.store.insert uri ?_
    rw [Setup.parsed_rename, hparses, himage]
  pending := hm.pending.erase uri

theorem Mirrors.stored (hm : Mirrors among names small big) {uri : Uri}
    (hamong : among uri = true) {context : Context Tree Metadata}
    (hstored : small.store.get? uri = some context) :
    big.store.get? uri = some (context.rename names) := by
  rw [hm.store uri hamong, hstored]
  rfl

theorem Mirrors.pending_iff (hm : Mirrors among names small big)
    (hnames : Function.Injective names.generation) {uri : Uri} (hamong : among uri = true)
    (generation : Nat) :
    big.timers.pending.get? uri = some (names.generation generation) ↔
      small.timers.pending.get? uri = some generation := by
  rw [hm.pending uri hamong, Option.map_eq_some_iff]
  constructor
  · rintro ⟨pending, hpending, hsame⟩
    rw [hpending, hnames hsame]
  · intro hpending
    exact ⟨generation, hpending, rfl⟩

/-- Both schedulers handle an event of the documents in the same way. The
numbers that they give to it are those that the renaming has for each other. -/
theorem Mirrors.move (hm : Mirrors among names small big)
    (h : Move setup small event next reply effects)
    (hnames : Function.Injective names.generation) (hamong : among event.uri = true)
    (harmed : event.arms setup ≠ 0 →
      names.generation (small.timers.armed + 1) = big.timers.armed + 1)
    (hparses : (big.handling setup (event.rename names)).engineCalls ≠ [] →
      names.identity small.parses = big.parses) :
    let image := big.handling setup (event.rename names)
    Mirrors among names next image.after ∧ image.reply = reply.rename names ∧
      image.work = effects.filter Effect.isReport := by
  have hkeep : ∀ uri context kind, (big.keepEffects setup uri context kind).filterMap
      Effect.engineCall? ≠ [] := by
    intro uri context kind
    simp [keepEffects_engineCalls]
  have hwork : ∀ uri context image kind, image = Context.rename names context →
      (big.keepEffects setup uri image kind).filter Effect.isReport =
        (small.keepEffects setup uri context kind).filter Effect.isReport := by
    rintro uri context _ kind rfl
    simp [keepEffects, Context.rename, Effect.isReport]
  cases h with
  | ignore hkind =>
      have himage : Move setup big _ _ _ _ := Move.ignore hkind
      rw [Event.rename, himage.handling_eq]
      exact ⟨hm, rfl, rfl⟩
  | @edit snapshot kind hkind =>
      have himage : Move setup big _ _ _ _ := Move.edit hkind
      have hnext := harmed (by simp [Event.arms, hkind])
      rw [Event.rename, himage.handling_eq]
      refine ⟨⟨?_, ?_⟩, rfl, rfl⟩
      · exact hm.store.insert _ (hm.received hamong)
      · exact hm.pending.insert _ hnext.symm
  | @close uri =>
      have himage : Move setup big (.close uri) _ _ _ := Move.close
      rw [Event.rename, himage.handling_eq]
      exact ⟨⟨hm.store.erase _, hm.pending.erase _⟩, rfl, rfl⟩
  | @lookUp uri =>
      have himage : Move setup big (.cached uri) _ _ _ := Move.lookUp
      rw [Event.rename, himage.handling_eq]
      exact ⟨hm, congrArg Reply.cached (hm.store uri hamong), rfl⟩
  | @stale uri generation hpending =>
      have himage : Move setup big (.timerFired uri (names.generation generation)) _ _ _ :=
        Move.stale (mt (hm.pending_iff hnames hamong generation).mp hpending)
      rw [Event.rename, himage.handling_eq]
      exact ⟨hm, rfl, rfl⟩
  | @idle uri generation hpending huntracked =>
      have hnone : small.store.get? uri = none → big.store.get? uri = none := by
        intro hnone
        rw [hm.store uri hamong, hnone]
        rfl
      have himage : Move setup big (.timerFired uri (names.generation generation)) _ _ _ :=
        Move.idle ((hm.pending_iff hnames hamong generation).mpr hpending)
          (huntracked.imp_right hnone)
      rw [Event.rename, himage.handling_eq]
      exact ⟨⟨hm.store, hm.pending.erase _⟩, rfl, rfl⟩
  | @fire uri generation kind context hpending hkind hstored =>
      have hfired : big.timers.pending.get? uri = some (names.generation generation) :=
        (hm.pending_iff hnames hamong generation).mpr hpending
      have himage := Move.fire hfired hkind (hm.stored hamong hstored)
      rw [Event.rename, himage.handling_eq] at hparses ⊢
      exact ⟨hm.keep uri rfl (hparses (hkeep _ _ _)) kind, rfl, hwork _ _ _ _ rfl⟩
  | decline hkind =>
      have himage : Move setup big _ _ _ _ := Move.decline hkind
      rw [Event.rename, himage.handling_eq]
      exact ⟨hm, rfl, rfl⟩
  | @serve snapshot kind context hkind hstored hparsed hversion =>
      have himage := Move.serve hkind (hm.stored hamong hstored) hparsed hversion
      rw [Event.rename, himage.handling_eq]
      exact ⟨⟨hm.store, hm.pending.erase _⟩, rfl, rfl⟩
  | @serveOlder snapshot kind context hkind hstored hparsed hversion =>
      have himage := Move.serveOlder hkind (hm.stored hamong hstored) hparsed hversion
      rw [Event.rename, himage.handling_eq]
      exact ⟨hm, rfl, rfl⟩
  | @supersede snapshot kind context hkind hstored hparsed hversion =>
      have himage := Move.supersede hkind (hm.stored hamong hstored) hparsed hversion
      rw [Event.rename, himage.handling_eq] at hparses ⊢
      have hnext := hparses (by simp [Handling.engineCalls, Pipeline.run_engineCalls])
      refine ⟨⟨hm.store, hm.pending⟩, ?_, rfl⟩
      rw [Reply.rename, Setup.parsed_rename, hnext]
      rfl
  | @refresh snapshot kind hkind hstored =>
      have hstored' : ∀ image, big.store.get? snapshot.uri = some image →
          image.parsedVersion ≠ some snapshot.version ∧
            image.snapshot.version ≤ snapshot.version := by
        intro image himage
        rw [hm.store snapshot.uri hamong] at himage
        obtain ⟨context, hcontext, rfl⟩ := Option.map_eq_some_iff.mp himage
        exact hstored context hcontext
      have himage := Move.refresh hkind hstored'
      rw [Event.rename, himage.handling_eq] at hparses ⊢
      have hnext := hparses (hkeep _ _ _)
      refine ⟨hm.keep _ rfl hnext kind, ?_, hwork _ _ _ _ rfl⟩
      rw [Reply.rename, Setup.parsed_rename, hnext]
      rfl

/-- For every timer that is started, whether it is one of the documents. -/
def armMarks (setup : Setup Tree Metadata) (among : Uri → Bool) (events : List Event) : List Bool :=
  events.flatMap fun event => List.replicate (event.arms setup) (among event.uri)

/-- For every parse, whether it is one of the documents. -/
def parseMarks (among : Uri → Bool) (log : List (Handling Tree Metadata)) : List Bool :=
  log.flatMap fun entry => List.replicate entry.engineCalls.length (among entry.event.uri)

theorem armMarks_append (setup : Setup Tree Metadata) (among : Uri → Bool)
    (first second : List Event) :
    armMarks setup among (first ++ second) =
      armMarks setup among first ++ armMarks setup among second :=
  List.flatMap_append

theorem parseMarks_append (among : Uri → Bool) (first second : List (Handling Tree Metadata)) :
    parseMarks among (first ++ second) = parseMarks among first ++ parseMarks among second :=
  List.flatMap_append

/-- Handling events, of which the first scheduler gets those of the documents
only, under its own names. -/
theorem Mirrors.handleAll (hm : Mirrors among names small big)
    (hnames : Function.Injective names.generation) {shared whole : List Event}
    (hshared : whole.filter (among ·.uri) = shared.map (Event.rename names))
    (harmed : Continues names.generation (small.timers.armed + 1) (big.timers.armed + 1)
      (armMarks setup among whole))
    (hparses : Continues names.identity small.parses big.parses
      (parseMarks among (big.log setup whole))) :
    Mirrors among names (small.handleAll setup shared).1 (big.handleAll setup whole).1 ∧
      ((big.log setup whole).filter (among ·.event.uri)).map Handling.reply =
        (small.log setup shared).map (Reply.rename names ·.reply) ∧
      ((big.log setup whole).filter (among ·.event.uri)).map Handling.work =
        (small.log setup shared).map Handling.work := by
  induction whole generalizing small big shared with
  | nil =>
      obtain rfl := List.map_eq_nil_iff.mp hshared.symm
      exact ⟨hm, rfl, rfl⟩
  | cons event rest ih =>
      let image := big.handling setup event
      have himage := handling_move setup big event
      have harms : image.after.timers.armed = big.timers.armed + event.arms setup :=
        himage.armed_eq
      have hcalls : image.after.parses = big.parses + image.engineCalls.length := himage.parses_eq
      rw [armMarks, List.flatMap_cons, ← armMarks] at harmed
      rw [parseMarks, log, List.flatMap_cons, ← parseMarks] at hparses
      have hlog : big.log setup (event :: rest) = image :: image.after.log setup rest := rfl
      rw [hlog, List.filter_cons]
      rw [List.filter_cons] at hshared
      cases hamong : among event.uri with
      | false =>
          have hskip : among image.event.uri = false := hamong
          have harmed' := (hamong ▸ harmed).skip
          have hparses' := (hamong ▸ hparses).skip
          rw [Nat.add_right_comm, ← harms] at harmed'
          rw [← hcalls] at hparses'
          rw [hamong] at hshared
          rw [hskip]
          exact ih (hm.outside himage hamong) hshared harmed' hparses'
      | true =>
          rw [if_pos hamong] at hshared
          have htake : among image.event.uri = true := hamong
          rw [if_pos htake]
          cases shared with
          | nil => cases hshared
          | cons first others =>
              obtain ⟨rfl, hothers⟩ := List.cons.inj hshared
              let entry := small.handling setup first
              have hentry := handling_move setup small first
              obtain ⟨harmed, harmed'⟩ := (hamong ▸ harmed).next
              obtain ⟨hparses, hparses'⟩ := (hamong ▸ hparses).next
              rw [Event.rename_arms] at harmed
              rw [Event.rename_uri] at hamong
              obtain ⟨hnext, hreply, hwork⟩ := hm.move hentry hnames hamong harmed
                fun hcalled => hparses (mt List.length_eq_zero_iff.mp hcalled)
              have hsame : image.engineCalls = entry.engineCalls :=
                calc
                  image.engineCalls = image.work.filterMap Effect.engineCall? :=
                    engineCalls_of_work _
                  _ = entry.work.filterMap Effect.engineCall? := congrArg _ hwork
                  _ = entry.engineCalls := (engineCalls_of_work _).symm
              have harms' : entry.after.timers.armed = small.timers.armed + first.arms setup :=
                hentry.armed_eq
              have hcalls' : entry.after.parses = small.parses + image.engineCalls.length := by
                rw [hsame]
                exact hentry.parses_eq
              rw [Nat.add_right_comm, Nat.add_right_comm big.timers.armed, ← harms,
                Event.rename_arms, ← harms'] at harmed'
              rw [← hcalls, ← hcalls'] at hparses'
              obtain ⟨hstate, hreplies, hworks⟩ := ih hnext hothers harmed' hparses'
              refine ⟨hstate, ?_, ?_⟩
              · rw [List.map_cons, hreplies, hreply]
                rfl
              · rw [List.map_cons, hworks, hwork]
                rfl

end Scheduler

end CelWatch
