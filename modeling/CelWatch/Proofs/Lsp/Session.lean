import CelWatch.Lsp.Server
import CelWatch.Proofs.Schedule.Latest

/-!
Sessions: what an editor sends about its documents, message by message, while
time passes. A workspace keeps the texts twice, in its own list and in the
store of its scheduler. It takes a change of a document that is not open like
the opening of it. What it does with a session is a run of the scheduler over
calls that keep the rules of callers, if the versions of every document ascend
from the first text to the close.
-/

namespace CelWatch.Lsp

/-- A message of an editor, or time that passes in milliseconds. -/
inductive Input where
  | opened (uri : Uri) (text : String) (version : Int)
  | changed (uri : Uri) (text : String) (version : Int)
  | saved (uri : Uri)
  | closed (uri : Uri)
  | symbols (uri : Uri)
  | elapsed (duration : Nat)
deriving DecidableEq, Repr

namespace Workspace

def take (workspace : Workspace) : Input → Workspace × Except Fault Json × Report
  | .opened uri text version | .changed uri text version =>
    workspace.perform (.edit (some (.ofText uri text version)))
  | .saved uri => workspace.perform (.save uri)
  | .closed uri => workspace.perform (.close uri)
  | .symbols uri => workspace.perform (.listSymbols uri)
  | .elapsed duration =>
    let (next, report) := workspace.wait duration
    (next, .ok .null, report)

end Workspace

/-- A text as an editor has it. -/
structure Draft where
  text : String
  version : Int
deriving DecidableEq, Repr

/-- What is kept of each document while messages about it come in. -/
abbrev Desk := Uri → Option Draft

namespace Desk

def empty : Desk := fun _ => none

def put (desk : Desk) (uri : Uri) (draft : Option Draft) : Desk :=
  fun other => if other = uri then draft else desk other

theorem put_same (desk : Desk) (uri : Uri) (draft : Option Draft) :
    desk.put uri draft uri = draft := if_pos rfl

theorem put_of_ne (desk : Desk) {uri other : Uri} (draft : Option Draft) (h : uri ≠ other) :
    desk.put other draft uri = desk uri := if_neg h

/-- Keeps the text that was received last, until the document is closed. -/
def receive (desk : Desk) : Input → Desk
  | .opened uri text version | .changed uri text version => desk.put uri (some ⟨text, version⟩)
  | .closed uri => desk.put uri none
  | .saved _ | .symbols _ | .elapsed _ => desk

/-- Keeps the text of a document from its opening to its close. A change of a
document that is not open is none of the document. -/
def follow (desk : Desk) : Input → Desk
  | .opened uri text version => desk.put uri (some ⟨text, version⟩)
  | .changed uri text version => desk.put uri ((desk uri).map fun _ => ⟨text, version⟩)
  | .closed uri => desk.put uri none
  | .saved _ | .symbols _ | .elapsed _ => desk

/-- The documents of which a text was received since their last close. -/
def received (inputs : List Input) : Desk := inputs.foldl receive empty

/-- The documents that are open. -/
def opened (inputs : List Input) : Desk := inputs.foldl follow empty

/-- The latest snapshot of a document. -/
def latest (desk : Desk) (uri : Uri) : Option Snapshot :=
  (desk uri).map fun draft => .ofText uri draft.text draft.version

theorem put_self (desk : Desk) {uri : Uri} {draft : Option Draft} (h : desk uri = draft) :
    desk.put uri draft = desk := by
  funext other
  by_cases hother : other = uri
  · rw [hother, put_same, h]
  · exact desk.put_of_ne draft hother

theorem latest_of_none {desk : Desk} {uri : Uri} (h : desk uri = none) :
    desk.latest uri = none := by
  rw [latest, h, Option.map_none]

theorem latest_of_some {desk : Desk} {uri : Uri} {draft : Draft} (h : desk uri = some draft) :
    desk.latest uri = some (.ofText uri draft.text draft.version) := by
  rw [latest, h, Option.map_some]

theorem latest_congr {desk other : Desk} {uri : Uri} (h : desk uri = other uri) :
    desk.latest uri = other.latest uri := by
  rw [latest, latest, h]

theorem latest_put_of_ne (desk : Desk) {uri other : Uri} (draft : Option Draft) (h : uri ≠ other) :
    (desk.put other draft).latest uri = desk.latest uri :=
  latest_congr (desk.put_of_ne draft h)

end Desk

/-- A new text has a greater version than the one before, if there is one. -/
def Input.Follows (desk : Desk) : Input → Prop
  | .opened uri _ version | .changed uri _ version =>
    ∀ draft ∈ desk uri, draft.version < version
  | .saved _ | .closed _ | .symbols _ | .elapsed _ => True

instance Input.Follows.decidable (desk : Desk) : ∀ input, Decidable (Input.Follows desk input)
  | .opened uri _ _ | .changed uri _ _ =>
    inferInstanceAs (Decidable (∀ draft ∈ desk uri, _))
  | .saved _ | .closed _ | .symbols _ | .elapsed _ => isTrue trivial

/-- Versions ascend, by what `record` keeps of each document: while it is open,
or from the first text that was received to the close. -/
def VersionsAscend (record : Desk → Input → Desk) (desk : Desk) : List Input → Prop
  | [] => True
  | input :: rest => input.Follows desk ∧ VersionsAscend record (record desk input) rest

instance VersionsAscend.decidable (record : Desk → Input → Desk) :
    ∀ desk inputs, Decidable (VersionsAscend record desk inputs)
  | _, [] => isTrue trivial
  | desk, input :: rest =>
    have := VersionsAscend.decidable record (record desk input) rest
    inferInstanceAs (Decidable (input.Follows desk ∧ _))

/-- The call that an input comes down to. Saves and requests for symbols ask
for a parse of the text that the workspace has. -/
def Input.call? (desk : Desk) : Input → Option Call
  | .opened uri text version | .changed uri text version => some (.edit uri text version)
  | .saved uri | .symbols uri =>
    (desk uri).map fun draft => .parseNow uri draft.text draft.version
  | .closed uri => some (.close uri)
  | .elapsed _ => none

def Input.turns (desk : Desk) : Input → List Turn
  | .elapsed duration => [.quiet duration]
  | input => ((input.call? desk).map fun call => ⟨0, [call]⟩).toList

/-- The calls of an input mirror the desk: the last snapshot submitted for a
document is the one on the desk, and all others are older. -/
structure Mirrors (history : History) (desk : Desk) : Prop where
  head : ∀ uri, (history uri).head? = desk.latest uri
  older : ∀ uri, ∀ snapshot ∈ history uri, ∀ latest ∈ desk.latest uri,
    snapshot = latest ∨ snapshot.version < latest.version

/-- What callers keep to who submit what is on a desk. -/
structure Orderly (history : History) (event : Event) : Prop where
  agrees : AgreesWith history event
  exceeds : Exceeds history event
  latest : AsksLatest history event

namespace Mirrors

variable {history : History} {desk : Desk}

theorem empty : Mirrors .empty .empty where
  head := fun _ => rfl
  older := fun _ _ member => nomatch member

/-- What is submitted for an open document is not older than what was submitted
before. -/
theorem exists_latest (h : Mirrors history desk) {uri : Uri} {snapshot : Snapshot}
    (hmem : snapshot ∈ history uri) :
    ∃ draft, desk uri = some draft ∧
      (snapshot = .ofText uri draft.text draft.version ∨ snapshot.version < draft.version) := by
  cases hdesk : desk uri with
  | none =>
      have hhead := h.head uri
      rw [Desk.latest_of_none hdesk, List.head?_eq_none_iff] at hhead
      rw [hhead] at hmem
      cases hmem
  | some draft =>
      exact ⟨draft, rfl, h.older uri snapshot hmem _ (Desk.latest_of_some hdesk)⟩

/-- A request for the newest snapshot leaves history and desk in step. -/
theorem request (h : Mirrors history desk) {event : Event} {uri : Uri} {draft : Draft}
    {next : Desk} (huri : event.uri = uri)
    (hrequest : event.request? = some (.ofText uri draft.text draft.version))
    (hnext : next = desk.put uri (some draft))
    (holder : ∀ snapshot ∈ history uri, snapshot = .ofText uri draft.text draft.version ∨
      snapshot.version < draft.version) : Mirrors (history.record event) next := by
  subst huri hnext
  have hrecord := history.record_request hrequest
  have hput : (desk.put event.uri (some draft)).latest event.uri =
      some (.ofText event.uri draft.text draft.version) :=
    Desk.latest_of_some (desk.put_same event.uri (some draft))
  constructor
  · intro other
    by_cases hother : other = event.uri
    · rw [hother, hrecord, hput, List.head?_cons]
    · rw [history.record_of_ne hother, desk.latest_put_of_ne _ hother]
      exact h.head other
  · intro other snapshot hmem latest hlatest
    by_cases hother : other = event.uri
    · rw [hother, hrecord] at hmem
      rw [hother, hput] at hlatest
      obtain rfl := Option.some.inj hlatest
      rcases List.mem_cons.mp hmem with rfl | hmem
      · exact .inl rfl
      · exact holder snapshot hmem
    · rw [history.record_of_ne hother] at hmem
      rw [desk.latest_put_of_ne _ hother] at hlatest
      exact h.older other snapshot hmem latest hlatest

theorem edit (h : Mirrors history desk) {uri : Uri} {text : String} {version : Int}
    (hfollows : ∀ draft ∈ desk uri, draft.version < version) :
    Orderly history (.edit (.ofText uri text version)) ∧
      Mirrors (history.record (.edit (.ofText uri text version)))
        (desk.put uri (some ⟨text, version⟩)) := by
  have hlt : ∀ snapshot ∈ history uri, snapshot.version < version := by
    intro snapshot hmem
    obtain ⟨draft, hdesk, rfl | hversion⟩ := h.exists_latest hmem
    · exact hfollows draft hdesk
    · exact Int.lt_trans hversion (hfollows draft hdesk)
  refine ⟨⟨?_, hlt, trivial⟩, ?_⟩
  · intro snapshot hsnapshot earlier hmem hversion
    obtain rfl := Option.some.inj hsnapshot
    exact absurd hversion (Int.ne_of_lt (hlt earlier hmem))
  · exact h.request rfl rfl rfl fun snapshot hmem => .inr (hlt snapshot hmem)

theorem parseNow (h : Mirrors history desk) {uri : Uri} {draft : Draft}
    (hdesk : desk uri = some draft) :
    Orderly history (.parseNow (.ofText uri draft.text draft.version)) ∧
      Mirrors (history.record (.parseNow (.ofText uri draft.text draft.version))) desk := by
  have holder : ∀ snapshot ∈ history uri, snapshot = .ofText uri draft.text draft.version ∨
      snapshot.version < draft.version := by
    intro snapshot hmem
    obtain ⟨other, hother, hor⟩ := h.exists_latest hmem
    obtain rfl := Option.some.inj (hdesk.symm.trans hother)
    exact hor
  refine ⟨⟨?_, trivial, ?_⟩, ?_⟩
  · intro snapshot hsnapshot earlier hmem hversion
    obtain rfl := Option.some.inj hsnapshot
    rcases holder earlier hmem with rfl | hlt
    · rfl
    · exact absurd hversion (Int.ne_of_lt hlt)
  · exact (h.head uri).trans (Desk.latest_of_some hdesk)
  · exact h.request rfl rfl (desk.put_self hdesk).symm holder

theorem close (h : Mirrors history desk) (uri : Uri) :
    Mirrors (history.record (.close uri)) (desk.put uri none) := by
  have hclosed : history.record (.close uri) uri = [] := if_pos rfl
  have hnone : (desk.put uri none).latest uri = none :=
    Desk.latest_of_none (desk.put_same uri none)
  constructor
  · intro other
    by_cases hother : other = uri
    · rw [hother, hclosed, hnone, List.head?_nil]
    · rw [history.record_of_ne hother, desk.latest_put_of_ne _ hother]
      exact h.head other
  · intro other snapshot hmem latest hlatest
    by_cases hother : other = uri
    · rw [hother, hclosed] at hmem
      cases hmem
    · rw [history.record_of_ne hother] at hmem
      rw [desk.latest_put_of_ne _ hother] at hlatest
      exact h.older other snapshot hmem latest hlatest

/-- The call of an input is orderly and keeps history and desk in step. -/
theorem call (h : Mirrors history desk) {input : Input} (hfollows : input.Follows desk) :
    match input.call? desk with
    | none => desk.receive input = desk
    | some call => Orderly history call.event ∧
        Mirrors (history.record call.event) (desk.receive input) := by
  cases input with
  | opened uri text version => exact h.edit hfollows
  | changed uri text version => exact h.edit hfollows
  | closed uri =>
      refine ⟨⟨?_, trivial, trivial⟩, h.close uri⟩
      intro snapshot hsnapshot
      cases hsnapshot
  | saved uri | symbols uri =>
      simp only [Input.call?]
      cases hdesk : desk uri with
      | none => rfl
      | some draft => exact h.parseNow hdesk
  | elapsed duration => rfl

end Mirrors

namespace Report

theorem append_assoc (first second third : Report) :
    (first.append second).append third = first.append (second.append third) := by
  simp [append]

end Report

namespace Workspace

theorem tellAll_append (feed : Feed) (first second : List Effect) :
    tellAll feed (first ++ second) =
      let (report, middle) := tellAll feed first
      let (later, last) := tellAll middle second
      (report.append later, last) := by
  induction first generalizing feed with
  | nil => rfl
  | cons effect rest ih => simp only [List.cons_append, tellAll, ih, Report.append_assoc]

/-- What a workspace does and tells is a run of its scheduler. -/
structure Runs (workspace next : Workspace) (report : Report) (turns : List Turn) : Prop where
  setup_eq : next.setup = workspace.setup
  scheduler_eq : next.scheduler = (workspace.scheduler.run workspace.setup turns).1
  told : tellAll workspace.feed (workspace.scheduler.run workspace.setup turns).2.2 =
    (report, next.feed)

theorem Runs.refl (workspace : Workspace) : workspace.Runs workspace .quiet [] :=
  ⟨rfl, rfl, rfl⟩

theorem Runs.append {workspace middle last : Workspace} {report later : Report}
    {first second : List Turn} (hfirst : workspace.Runs middle report first)
    (hsecond : middle.Runs last later second) :
    workspace.Runs last (report.append later) (first ++ second) := by
  obtain ⟨hsetup, hscheduler, htold⟩ := hfirst
  obtain ⟨hsetup', hscheduler', htold'⟩ := hsecond
  rw [hsetup, hscheduler] at hscheduler' htold'
  constructor
  · rw [hsetup', hsetup]
  · rw [Timed.run_append]
    exact hscheduler'
  · rw [Timed.run_append, tellAll_append, htold]
    simp only [htold']

end Workspace

end CelWatch.Lsp
