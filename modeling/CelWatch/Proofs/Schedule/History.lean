import Mathlib.Data.List.Induction
import CelWatch.Proofs.Schedule.Move

/-!
What callers submit to a scheduler, and what they keep to when they do. A
history knows the snapshots that were submitted for each document since its
last close. The rules of callers are conditions on one event and the history
before it, and a list of events keeps a rule when each of its events does.
-/

namespace CelWatch

/-- The snapshot that an edit or an immediate parse hands over. -/
def Event.request? : Event → Option Snapshot
  | .edit snapshot | .parseNow snapshot => some snapshot
  | .close _ | .cached _ | .timerFired _ _ => none

/-- The snapshots submitted for each document since its last close, the latest
first. -/
abbrev History := Uri → List Snapshot

namespace History

def empty : History := fun _ => []

/-- A close ends the history of a document; the next request begins another. -/
def record (history : History) : Event → History
  | .edit snapshot | .parseNow snapshot => fun uri =>
    if uri = snapshot.uri then snapshot :: history uri else history uri
  | .close closed => fun uri => if uri = closed then [] else history uri
  | .cached _ | .timerFired _ _ => history

def ofEvents (events : List Event) : History := events.foldl record empty

theorem ofEvents_concat (events : List Event) (event : Event) :
    ofEvents (events ++ [event]) = (ofEvents events).record event := by
  simp [ofEvents]

theorem mem_record_iff {history : History} {event : Event} {snapshot : Snapshot}
    (hrequest : event.request? = some snapshot) {uri : Uri} {submitted : Snapshot} :
    submitted ∈ history.record event uri ↔
      (uri = snapshot.uri ∧ submitted = snapshot) ∨ submitted ∈ history uri := by
  have hrecord : history.record event uri =
      if uri = snapshot.uri then snapshot :: history uri else history uri := by
    cases event with
    | edit _ | parseNow _ => cases hrequest; rfl
    | close _ | cached _ | timerFired _ _ => cases hrequest
  rw [hrecord]
  split
  · next huri => simp [huri]
  · next huri => simp [huri]

theorem mem_record_self (history : History) {event : Event} {snapshot : Snapshot}
    (hrequest : event.request? = some snapshot) : snapshot ∈ history.record event snapshot.uri :=
  (mem_record_iff hrequest).mpr (.inl ⟨rfl, rfl⟩)

/-- An event that submits nothing adds nothing. -/
theorem mem_of_mem_record {history : History} {event : Event} (hrequest : event.request? = none)
    {uri : Uri} {submitted : Snapshot} (h : submitted ∈ history.record event uri) :
    submitted ∈ history uri := by
  cases event with
  | edit _ | parseNow _ => cases hrequest
  | close closed =>
      simp only [record] at h
      split at h
      · cases h
      · exact h
  | cached _ | timerFired _ _ => exact h

/-- Everything but a close keeps what was submitted. -/
theorem mem_record_of_mem {history : History} {event : Event} {uri : Uri}
    (hopen : event ≠ .close uri) {submitted : Snapshot} (h : submitted ∈ history uri) :
    submitted ∈ history.record event uri := by
  cases event with
  | edit snapshot | parseNow snapshot => exact (mem_record_iff rfl).mpr (.inr h)
  | close closed =>
      have hother : uri ≠ closed := fun same => hopen (same ▸ rfl)
      simpa [record, hother] using h
  | cached _ | timerFired _ _ => exact h

theorem record_of_ne (history : History) {event : Event} {uri : Uri} (hne : uri ≠ event.uri) :
    history.record event uri = history uri := by
  cases event with
  | edit _ | parseNow _ | close _ => exact if_neg hne
  | cached _ | timerFired _ _ => rfl

theorem record_request (history : History) {event : Event} {snapshot : Snapshot}
    (hrequest : event.request? = some snapshot) :
    history.record event event.uri = snapshot :: history event.uri := by
  cases event with
  | edit _ | parseNow _ =>
      obtain rfl := Option.some.inj hrequest
      exact if_pos rfl
  | close _ | cached _ | timerFired _ _ => cases hrequest

/-- A snapshot is in the history of a document when it was submitted for it and
no close came after it. -/
theorem mem_ofEvents_iff {events : List Event} {uri : Uri} {snapshot : Snapshot} :
    snapshot ∈ ofEvents events uri ↔ ∃ earlier event later, events = earlier ++ event :: later ∧
      event.request? = some snapshot ∧ snapshot.uri = uri ∧ .close uri ∉ later := by
  induction events using List.reverseRecOn with
  | nil =>
      constructor
      · intro h
        cases h
      · rintro ⟨earlier, event, later, hsplit, _⟩
        simp at hsplit
  | append_singleton events last ih =>
      rw [ofEvents_concat]
      constructor
      · intro h
        have hopen : last ≠ .close uri := by
          rintro rfl
          simp [record] at h
        have hold : snapshot ∈ ofEvents events uri → ∃ earlier event later,
            events ++ [last] = earlier ++ event :: later ∧ event.request? = some snapshot ∧
              snapshot.uri = uri ∧ .close uri ∉ later := by
          intro hmem
          obtain ⟨earlier, event, later, rfl, hrequest, huri, hlater⟩ := ih.mp hmem
          exact ⟨earlier, event, later ++ [last], by simp, hrequest, huri,
            by simp [hlater, hopen.symm]⟩
        cases hrequest : last.request? with
        | none => exact hold (mem_of_mem_record hrequest h)
        | some requested =>
            rcases (mem_record_iff hrequest).mp h with ⟨huri, rfl⟩ | hmem
            · exact ⟨events, last, [], rfl, hrequest, huri.symm, by simp⟩
            · exact hold hmem
      · rintro ⟨earlier, event, later, hsplit, hrequest, huri, hlater⟩
        rcases List.eq_nil_or_concat later with rfl | ⟨front, final, rfl⟩
        · obtain ⟨_, hlast⟩ := List.append_inj' hsplit rfl
          obtain rfl := List.singleton_inj.mp hlast
          exact huri ▸ mem_record_self _ hrequest
        · have hsplit' : events ++ [last] = (earlier ++ event :: front) ++ [final] := by
            simpa using hsplit
          obtain ⟨hevents, hlast⟩ := List.append_inj' hsplit' rfl
          obtain rfl := List.singleton_inj.mp hlast
          have hopen : last ≠ .close uri := by
            rintro rfl
            simp at hlater
          refine mem_record_of_mem hopen (ih.mpr ⟨earlier, event, front, hevents, hrequest, huri, ?_⟩)
          intro hmem
          exact hlater (by simp [hmem])

end History

/-- A condition holds of every event of a list, each with the history before
it. -/
def Along (condition : History → Event → Prop) (history : History) : List Event → Prop
  | [] => True
  | event :: rest => condition history event ∧ Along condition (history.record event) rest

instance Along.decidable (condition : History → Event → Prop)
    [∀ history event, Decidable (condition history event)] :
    ∀ history events, Decidable (Along condition history events)
  | _, [] => isTrue trivial
  | history, event :: rest =>
    have := Along.decidable condition (history.record event) rest
    inferInstanceAs (Decidable (condition history event ∧ _))

theorem Along.at {condition : History → Event → Prop} {history : History} {event : Event}
    {before after : List Event} (h : Along condition history (before ++ event :: after)) :
    condition (before.foldl History.record history) event := by
  induction before generalizing history with
  | nil => exact h.1
  | cons first rest ih => exact ih h.2

theorem Along.init {condition : History → Event → Prop} {history : History}
    {before after : List Event} (h : Along condition history (before ++ after)) :
    Along condition history before := by
  induction before generalizing history with
  | nil => trivial
  | cons first rest ih => exact ⟨h.1, ih h.2⟩

theorem Along.imp {condition weaker : History → Event → Prop}
    (himp : ∀ history event, condition history event → weaker history event)
    {history : History} {events : List Event} (h : Along condition history events) :
    Along weaker history events := by
  induction events generalizing history with
  | nil => trivial
  | cons first rest ih => exact ⟨himp history first h.1, ih h.2⟩

/-- A request carries the text of the earlier ones with its version. -/
def AgreesWith (history : History) (event : Event) : Prop :=
  ∀ snapshot ∈ event.request?, ∀ earlier ∈ history snapshot.uri,
    earlier.version = snapshot.version → earlier.text = snapshot.text

/-- An edit has a greater version than every earlier request. -/
def Exceeds (history : History) : Event → Prop
  | .edit snapshot => ∀ earlier ∈ history snapshot.uri, earlier.version < snapshot.version
  | .parseNow _ | .close _ | .cached _ | .timerFired _ _ => True

instance (history : History) (event : Event) : Decidable (AgreesWith history event) :=
  inferInstanceAs (Decidable (∀ snapshot ∈ event.request?, _))

instance (history : History) : ∀ event, Decidable (Exceeds history event)
  | .edit snapshot => inferInstanceAs (Decidable (∀ earlier ∈ history snapshot.uri, _))
  | .parseNow _ | .close _ | .cached _ | .timerFired _ _ => isTrue trivial

/-- Between two closes of a document, requests with equal versions carry equal
texts. -/
def TextsAgree (events : List Event) : Prop := Along AgreesWith .empty events

/-- Between two closes of a document, each edit has a greater version than all
requests before it. -/
def EditsAscend (events : List Event) : Prop := Along Exceeds .empty events

instance (events : List Event) : Decidable (TextsAgree events) :=
  inferInstanceAs (Decidable (Along _ _ _))

instance (events : List Event) : Decidable (EditsAscend events) :=
  inferInstanceAs (Decidable (Along _ _ _))

/-- A history in which a version says all there is to say of a snapshot. -/
structure History.Coherent (history : History) : Prop where
  uri_eq : ∀ {uri submitted}, submitted ∈ history uri → submitted.uri = uri
  text_eq : ∀ {uri first second}, first ∈ history uri → second ∈ history uri →
    first.version = second.version → first.text = second.text

namespace History

theorem Coherent.eq {history : History} (h : history.Coherent) {uri : Uri}
    {first second : Snapshot} (hfirst : first ∈ history uri) (hsecond : second ∈ history uri)
    (hversion : first.version = second.version) : first = second :=
  Snapshot.eq_of ((h.uri_eq hfirst).trans (h.uri_eq hsecond).symm)
    (h.text_eq hfirst hsecond hversion) hversion

theorem coherent_empty : empty.Coherent where
  uri_eq := fun h => nomatch h
  text_eq := fun h => nomatch h

theorem Coherent.record {history : History} (h : history.Coherent) {event : Event}
    (hagree : AgreesWith history event) : (history.record event).Coherent := by
  cases hrequest : event.request? with
  | none =>
      exact {
        uri_eq := fun hs => h.uri_eq (mem_of_mem_record hrequest hs)
        text_eq := fun hf hs => h.text_eq (mem_of_mem_record hrequest hf)
          (mem_of_mem_record hrequest hs) }
  | some snapshot =>
      have hnew := hagree snapshot hrequest
      refine ⟨?_, ?_⟩
      · intro uri submitted hs
        rcases (mem_record_iff hrequest).mp hs with ⟨huri, rfl⟩ | hs
        · exact huri.symm
        · exact h.uri_eq hs
      · intro uri first second hfirst hsecond hversion
        rcases (mem_record_iff hrequest).mp hfirst with ⟨huri, rfl⟩ | hfirst
        · rcases (mem_record_iff hrequest).mp hsecond with ⟨_, rfl⟩ | hsecond
          · rfl
          · exact (hnew second (huri ▸ hsecond) hversion.symm).symm
        · rcases (mem_record_iff hrequest).mp hsecond with ⟨huri, rfl⟩ | hsecond
          · exact hnew first (huri ▸ hfirst) hversion
          · exact h.text_eq hfirst hsecond hversion

end History

end CelWatch
