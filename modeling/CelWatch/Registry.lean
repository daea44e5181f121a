/-!
Values by key. The keys keep the order in which they came in, and no key comes
twice. The view of a registry is `get?`; each operation has a lemma that says
what it does to the view.
-/

namespace CelWatch

structure Registry (κ α : Type) where
  entries : List (κ × α)
  nodup : (entries.map Prod.fst).Nodup

namespace Registry

variable {κ α : Type}

def empty : Registry κ α := ⟨[], .nil⟩

instance : Inhabited (Registry κ α) := ⟨empty⟩

def keys (registry : Registry κ α) : List κ := registry.entries.map Prod.fst

def values (registry : Registry κ α) : List α := registry.entries.map Prod.snd

def size (registry : Registry κ α) : Nat := registry.entries.length

def isEmpty (registry : Registry κ α) : Bool := registry.entries.isEmpty

variable [DecidableEq κ]

/-- The value of the first entry of a key. -/
def find? (key : κ) : List (κ × α) → Option α
  | [] => none
  | (k, value) :: rest => if k = key then some value else find? key rest

/-- The entries with one for the key: in the place of the old one, or last. -/
def replace (key : κ) (value : α) : List (κ × α) → List (κ × α)
  | [] => [(key, value)]
  | (k, old) :: rest => if k = key then (k, value) :: rest else (k, old) :: replace key value rest

/-- The entries without that of the key. -/
def remove (key : κ) : List (κ × α) → List (κ × α)
  | [] => []
  | (k, value) :: rest => if k = key then rest else (k, value) :: remove key rest

theorem mem_keys_replace {key k : κ} {value : α} {entries : List (κ × α)} :
    k ∈ (replace key value entries).map Prod.fst ↔ k = key ∨ k ∈ entries.map Prod.fst := by
  induction entries with
  | nil => simp [replace]
  | cons entry rest ih =>
      obtain ⟨first, old⟩ := entry
      by_cases same : first = key
      · subst same; simp [replace]
      · simp only [replace, if_neg same, List.map_cons, List.mem_cons, ih]
        constructor
        · rintro (h | h | h)
          · exact .inr (.inl h)
          · exact .inl h
          · exact .inr (.inr h)
        · rintro (h | h | h)
          · exact .inr (.inl h)
          · exact .inl h
          · exact .inr (.inr h)

theorem nodup_replace (key : κ) (value : α) {entries : List (κ × α)}
    (h : (entries.map Prod.fst).Nodup) : ((replace key value entries).map Prod.fst).Nodup := by
  induction entries with
  | nil => simp [replace]
  | cons entry rest ih =>
      obtain ⟨first, old⟩ := entry
      simp only [List.map_cons, List.nodup_cons] at h
      by_cases same : first = key
      · simpa [replace, same] using h
      · simp only [replace, if_neg same, List.map_cons, List.nodup_cons, mem_keys_replace]
        exact ⟨fun other => other.elim same h.1, ih h.2⟩

theorem mem_keys_of_mem_remove {key k : κ} {entries : List (κ × α)}
    (h : k ∈ (remove key entries).map Prod.fst) : k ∈ entries.map Prod.fst := by
  induction entries with
  | nil => exact h
  | cons entry rest ih =>
      obtain ⟨first, old⟩ := entry
      by_cases same : first = key
      · rw [remove, if_pos same] at h
        exact List.mem_cons_of_mem _ h
      · rw [remove, if_neg same, List.map_cons, List.mem_cons] at h
        exact h.elim (fun h => h ▸ List.mem_cons_self) fun h => List.mem_cons_of_mem _ (ih h)

theorem nodup_remove (key : κ) {entries : List (κ × α)} (h : (entries.map Prod.fst).Nodup) :
    ((remove key entries).map Prod.fst).Nodup := by
  induction entries with
  | nil => exact h
  | cons entry rest ih =>
      obtain ⟨first, old⟩ := entry
      simp only [List.map_cons, List.nodup_cons] at h
      by_cases same : first = key
      · rw [remove, if_pos same]
        exact h.2
      · rw [remove, if_neg same, List.map_cons, List.nodup_cons]
        exact ⟨fun other => h.1 (mem_keys_of_mem_remove other), ih h.2⟩

def get? (registry : Registry κ α) (key : κ) : Option α := find? key registry.entries

def contains (registry : Registry κ α) (key : κ) : Bool := (registry.get? key).isSome

/-- Gives a key a value, whatever it had before. -/
def insert (registry : Registry κ α) (key : κ) (value : α) : Registry κ α :=
  ⟨replace key value registry.entries, nodup_replace key value registry.nodup⟩

def erase (registry : Registry κ α) (key : κ) : Registry κ α :=
  ⟨remove key registry.entries, nodup_remove key registry.nodup⟩

theorem find?_eq_none_iff {key : κ} {entries : List (κ × α)} :
    find? key entries = none ↔ key ∉ entries.map Prod.fst := by
  induction entries with
  | nil => simp [find?]
  | cons entry rest ih =>
      obtain ⟨first, value⟩ := entry
      by_cases same : first = key
      · simp [find?, same]
      · simp only [find?, if_neg same, ih, List.map_cons, List.mem_cons, not_or]
        exact ⟨fun h => ⟨fun other => same other.symm, h⟩, fun h => h.2⟩

theorem find?_replace (key k : κ) (value : α) (entries : List (κ × α)) :
    find? k (replace key value entries) = if k = key then some value else find? k entries := by
  induction entries with
  | nil => by_cases h : key = k <;> simp [replace, find?, h, eq_comm]
  | cons entry rest ih =>
      obtain ⟨first, old⟩ := entry
      by_cases same : first = key
      · subst same
        by_cases h : first = k
        · simp [replace, find?, h]
        · simp [replace, find?, h, Ne.symm h]
      · by_cases h : first = k
        · subst h; simp [replace, find?, same]
        · simp [replace, find?, same, h, ih]

theorem find?_remove (key k : κ) {entries : List (κ × α)} (h : (entries.map Prod.fst).Nodup) :
    find? k (remove key entries) = if k = key then none else find? k entries := by
  induction entries with
  | nil => simp [remove, find?]
  | cons entry rest ih =>
      obtain ⟨first, old⟩ := entry
      simp only [List.map_cons, List.nodup_cons] at h
      by_cases same : first = key
      · subst same
        by_cases other : k = first
        · subst other
          simpa [remove] using find?_eq_none_iff.2 h.1
        · simp [remove, find?, other, Ne.symm other]
      · by_cases other : first = k
        · subst other; simp [remove, find?, same]
        · simp [remove, find?, same, other, ih h.2]

@[simp] theorem get?_empty (key : κ) : (empty : Registry κ α).get? key = none := rfl

theorem get?_insert (registry : Registry κ α) (key k : κ) (value : α) :
    (registry.insert key value).get? k = if k = key then some value else registry.get? k :=
  find?_replace key k value registry.entries

theorem get?_erase (registry : Registry κ α) (key k : κ) :
    (registry.erase key).get? k = if k = key then none else registry.get? k :=
  find?_remove key k registry.nodup

@[simp] theorem get?_insert_self (registry : Registry κ α) (key : κ) (value : α) :
    (registry.insert key value).get? key = some value := by
  rw [get?_insert, if_pos rfl]

@[simp] theorem get?_erase_self (registry : Registry κ α) (key : κ) :
    (registry.erase key).get? key = none := by
  rw [get?_erase, if_pos rfl]

theorem get?_insert_of_ne (registry : Registry κ α) {key k : κ} (value : α) (h : k ≠ key) :
    (registry.insert key value).get? k = registry.get? k := by
  rw [get?_insert, if_neg h]

theorem get?_erase_of_ne (registry : Registry κ α) {key k : κ} (h : k ≠ key) :
    (registry.erase key).get? k = registry.get? k := by
  rw [get?_erase, if_neg h]

theorem eq_of_get?_insert_self {registry : Registry κ α} {key : κ} {value other : α}
    (h : (registry.insert key value).get? key = some other) : other = value := by
  rw [get?_insert_self] at h
  exact (Option.some.inj h).symm

/-- What is found after a write was written or was there before. -/
theorem get?_insert_eq_some {registry : Registry κ α} {key k : κ} {value other : α}
    (h : (registry.insert key value).get? k = some other) :
    k = key ∧ other = value ∨ k ≠ key ∧ registry.get? k = some other := by
  by_cases hkey : k = key
  · subst hkey
    exact .inl ⟨rfl, eq_of_get?_insert_self h⟩
  · rw [get?_insert_of_ne registry value hkey] at h
    exact .inr ⟨hkey, h⟩

theorem get?_erase_eq_some {registry : Registry κ α} {key k : κ} {value : α}
    (h : (registry.erase key).get? k = some value) :
    k ≠ key ∧ registry.get? k = some value := by
  by_cases hkey : k = key
  · rw [hkey, get?_erase_self] at h
    cases h
  · rw [get?_erase_of_ne registry hkey] at h
    exact ⟨hkey, h⟩

theorem mem_keys_iff (registry : Registry κ α) (key : κ) :
    key ∈ registry.keys ↔ (registry.get? key).isSome := by
  rw [Option.isSome_iff_ne_none, Ne, get?, find?_eq_none_iff, keys, Decidable.not_not]

theorem keys_replace (key : κ) (value : α) (entries : List (κ × α)) :
    (replace key value entries).map Prod.fst =
      if key ∈ entries.map Prod.fst then entries.map Prod.fst
      else entries.map Prod.fst ++ [key] := by
  induction entries with
  | nil => simp [replace]
  | cons entry rest ih =>
      obtain ⟨first, old⟩ := entry
      by_cases same : first = key
      · simp [replace, same]
      · simp only [replace, if_neg same, List.map_cons, ih, List.mem_cons, Ne.symm same, false_or]
        split <;> rfl

theorem keys_remove (key : κ) (entries : List (κ × α)) :
    (remove key entries).map Prod.fst = (entries.map Prod.fst).erase key := by
  induction entries with
  | nil => rfl
  | cons entry rest ih =>
      obtain ⟨first, old⟩ := entry
      by_cases same : first = key
      · simp [remove, same]
      · simp [remove, same, ih]

theorem map_find?_keys {entries : List (κ × α)} (h : (entries.map Prod.fst).Nodup) :
    (entries.map Prod.fst).map (find? · entries) = (entries.map Prod.snd).map some := by
  induction entries with
  | nil => rfl
  | cons entry rest ih =>
      obtain ⟨first, value⟩ := entry
      simp only [List.map_cons, List.nodup_cons] at h
      have others : ∀ key ∈ rest.map Prod.fst,
          find? key ((first, value) :: rest) = find? key rest := by
        intro key member
        have different : first ≠ key := fun same => h.1 (same ▸ member)
        simp [find?, different]
      rw [List.map_cons, List.map_cons, List.map_cons, List.map_cons, List.map_congr_left others,
        ih h.2]
      simp [find?]

/-- A key that is new comes last; one that is there keeps its place. -/
theorem keys_insert (registry : Registry κ α) (key : κ) (value : α) :
    (registry.insert key value).keys =
      if key ∈ registry.keys then registry.keys else registry.keys ++ [key] :=
  keys_replace key value registry.entries

theorem keys_erase (registry : Registry κ α) (key : κ) :
    (registry.erase key).keys = registry.keys.erase key :=
  keys_remove key registry.entries

/-- The values are what the view says of the keys, in the order of the keys. -/
theorem map_get?_keys (registry : Registry κ α) :
    registry.keys.map registry.get? = registry.values.map some :=
  map_find?_keys registry.nodup

/-- Registries with the same keys in the same order have the same values as
soon as their views are the same. -/
theorem map_values_eq {β : Type} {first : Registry κ α} {second : Registry κ β} {f : α → β}
    (hkeys : first.keys = second.keys) (hview : ∀ key, (first.get? key).map f = second.get? key) :
    first.values.map f = second.values := by
  apply (List.map_inj_right (f := some) fun _ _ => Option.some.inj).mp
  rw [← map_get?_keys second, ← hkeys, ← List.map_congr_left fun key _ => hview key]
  calc
    (first.values.map f).map some = (first.values.map some).map (Option.map f) := by simp
    _ = (first.keys.map first.get?).map (Option.map f) := by rw [map_get?_keys]
    _ = first.keys.map fun key => (first.get? key).map f := List.map_map

end Registry

end CelWatch
