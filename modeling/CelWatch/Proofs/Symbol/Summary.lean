import Mathlib.Algebra.BigOperators.Group.List.Lemmas
import Mathlib.Algebra.GroupWithZero.Nat
import Mathlib.Data.List.Dedup
import Mathlib.Data.List.Induction
import Mathlib.Data.List.Nodup
import CelWatch.Engine.Cel
import CelWatch.Lists

/-!
A table of symbols sums its walk up. It has a symbol for each name of a kind
that the walk comes upon, in the order in which it first does, with the place
of the first occurrence and the number of all; and it finds each of them. The
index is what has to be kept in step with the symbols: it knows exactly the
places at which they stand.
-/

namespace CelWatch

theorem Symbol.key_again (symbol : Symbol) : symbol.again.key = symbol.key := rfl

namespace SymbolTable

/-- How often a name of a kind occurs, by the table. -/
def occurrencesOf (table : SymbolTable) (kind : SymbolKind) (name : String) : Nat :=
  ((table.get? kind name).map Symbol.occurrences).getD 0

/-- The table has the names of the walk in their order, each with its first
occurrence and their number, and the index has the places of all of them. -/
structure Summarizes (table : SymbolTable) (walk : List Occurrence) : Prop where
  keys : table.symbols.map Symbol.key = (walk.map Occurrence.key).eraseDups
  first : ∀ symbol ∈ table.symbols,
    walk.find? (·.key == symbol.key) = some ⟨symbol.kind, symbol.name, symbol.span⟩
  counted : ∀ symbol ∈ table.symbols,
    symbol.occurrences = (walk.map Occurrence.key).count symbol.key
  places : ∀ key place,
    table.index.get? key = some place ↔ (table.symbols.map Symbol.key)[place]? = some key

section Step

variable {table : SymbolTable} {walk : List Occurrence} {occurrence : Occurrence} {place : Nat}

theorem map_key_modify (symbols : List Symbol) (place : Nat) :
    (symbols.modify place Symbol.again).map Symbol.key = symbols.map Symbol.key := by
  apply List.ext_getElem?
  intro i
  rw [List.getElem?_map, List.getElem?_map, List.getElem?_modify]
  cases symbols[i]? with
  | none => rfl
  | some symbol =>
      by_cases hplace : place = i
      · simp [hplace, Symbol.key_again]
      · simp [hplace]

theorem exists_of_mem_modify {symbols : List Symbol} {symbol : Symbol}
    (h : symbol ∈ symbols.modify place Symbol.again) :
    ∃ i old, symbols[i]? = some old ∧ symbol = if place = i then old.again else old := by
  obtain ⟨i, hi⟩ := List.mem_iff_getElem?.mp h
  rw [List.getElem?_modify] at hi
  obtain ⟨old, hold, rfl⟩ := Option.map_eq_some_iff.mp hi
  exact ⟨i, old, hold, rfl⟩

section EraseDups

variable {α : Type} [BEq α] [LawfulBEq α] {keys : List α} {key : α}

theorem eraseDups_concat_of_mem (h : key ∈ keys) : (keys ++ [key]).eraseDups = keys.eraseDups := by
  simp [List.eraseDups_append, List.removeAll, h]

theorem eraseDups_concat_of_not_mem (h : key ∉ keys) :
    (keys ++ [key]).eraseDups = keys.eraseDups ++ [key] := by
  simp [List.eraseDups_append, List.removeAll, h, List.eraseDups_cons]

end EraseDups

theorem Summarizes.mem_keys_iff (h : table.Summarizes walk) (key : SymbolKind × String) :
    key ∈ table.symbols.map Symbol.key ↔ key ∈ walk.map Occurrence.key := by
  rw [h.keys, List.mem_eraseDups]

/-- The index leads to one place only, so no two symbols have one name. -/
theorem Summarizes.place_unique (h : table.Summarizes walk) {first second : Nat}
    {key : SymbolKind × String} (hfirst : (table.symbols.map Symbol.key)[first]? = some key)
    (hsecond : (table.symbols.map Symbol.key)[second]? = some key) : first = second := by
  have hboth := ((h.places key first).mpr hfirst).symm.trans ((h.places key second).mpr hsecond)
  exact Option.some.inj hboth

theorem empty_summarizes : empty.Summarizes [] where
  keys := rfl
  first := nofun
  counted := nofun
  places := by simp [empty]

theorem Summarizes.count (h : table.Summarizes walk)
    (hfound : table.index.get? occurrence.key = some place) :
    (table.count place).Summarizes (walk ++ [occurrence]) := by
  have hplace := (h.places _ _).mp hfound
  have hmember := (h.mem_keys_iff _).mp (List.mem_of_getElem? hplace)
  refine ⟨?_, ?_, ?_, ?_⟩
  · rw [List.map_append, List.map_singleton, eraseDups_concat_of_mem hmember, ← h.keys]
    exact map_key_modify table.symbols place
  · intro symbol member
    obtain ⟨i, old, hold, rfl⟩ := exists_of_mem_modify member
    have hfirst := h.first old (List.mem_of_getElem? hold)
    have hsame : (if place = i then old.again else old).key = old.key := by
      split <;> rfl
    rw [hsame, List.find?_append, hfirst]
    split <;> rfl
  · intro symbol member
    obtain ⟨i, old, hold, rfl⟩ := exists_of_mem_modify member
    have hcounted := h.counted old (List.mem_of_getElem? hold)
    have hkey : (table.symbols.map Symbol.key)[i]? = some old.key := by
      rw [List.getElem?_map, hold, Option.map_some]
    rw [List.map_append, List.map_singleton, List.count_append, List.count_singleton]
    by_cases hi : place = i
    · have hsame : occurrence.key = old.key := by
        rw [← hi, hplace] at hkey
        exact Option.some.inj hkey
      simp only [if_pos hi, Symbol.key_again, hsame, beq_self_eq_true, if_true, ← hcounted]
      rfl
    · have hother : occurrence.key ≠ old.key := fun hsame =>
        hi (h.place_unique hplace (hsame ▸ hkey))
      simp [hi, hcounted, hother]
  · intro key other
    exact (h.places key other).trans (by rw [SymbolTable.count, map_key_modify])

theorem Summarizes.push (h : table.Summarizes walk)
    (hnone : table.index.get? occurrence.key = none) :
    (table.push occurrence).Summarizes (walk ++ [occurrence]) := by
  have hfresh : occurrence.key ∉ table.symbols.map Symbol.key := by
    intro member
    obtain ⟨place, hplace⟩ := List.mem_iff_getElem?.mp member
    rw [(h.places _ _).mpr hplace] at hnone
    cases hnone
  have hnew : occurrence.key ∉ walk.map Occurrence.key := mt (h.mem_keys_iff _).mpr hfresh
  have hkeys : (table.push occurrence).symbols.map Symbol.key =
      table.symbols.map Symbol.key ++ [occurrence.key] := by
    rw [SymbolTable.push, List.map_append, List.map_singleton]
    rfl
  refine ⟨?_, ?_, ?_, ?_⟩
  · rw [hkeys, List.map_append, List.map_singleton, eraseDups_concat_of_not_mem hnew, h.keys]
  · intro symbol member
    rw [List.find?_append]
    rcases List.mem_append.mp member with hbefore | hlast
    · rw [h.first symbol hbefore]
      rfl
    · obtain rfl := List.mem_singleton.mp hlast
      have hno : walk.find? (·.key == occurrence.key) = none := by
        rw [List.find?_eq_none]
        intro other hother hsame
        exact hnew (List.mem_map.mpr ⟨other, hother, eq_of_beq hsame⟩)
      have hsame : (Symbol.ofFirst occurrence).key = occurrence.key := rfl
      rw [hsame, hno, Option.none_or, List.find?_singleton, beq_self_eq_true]
      rfl
  · intro symbol member
    rw [List.map_append, List.map_singleton, List.count_append, List.count_singleton]
    rcases List.mem_append.mp member with hbefore | hlast
    · have hother : occurrence.key ≠ symbol.key := fun hsame =>
        hfresh (List.mem_map.mpr ⟨symbol, hbefore, hsame.symm⟩)
      simp [h.counted symbol hbefore, hother]
    · obtain rfl := List.mem_singleton.mp hlast
      have hsame : (Symbol.ofFirst occurrence).key = occurrence.key := rfl
      rw [hsame, List.count_eq_zero.mpr hnew, beq_self_eq_true]
      rfl
  · intro key place
    have hindex : (table.push occurrence).index.get? key = _ := Registry.get?_insert _ _ _ _
    rw [hindex, hkeys]
    rw [Lists.getElem?_concat_eq_some_iff, List.length_map]
    by_cases hkey : key = occurrence.key
    · subst hkey
      have hbefore : (table.symbols.map Symbol.key)[place]? ≠ some occurrence.key := fun hplace =>
        hfresh (List.mem_of_getElem? hplace)
      simp only [if_true, Option.some.injEq, hbefore, false_or, and_true, eq_comm]
    · rw [if_neg hkey, h.places key place]
      simp [Ne.symm hkey]

theorem Summarizes.record (h : table.Summarizes walk) (occurrence : Occurrence) :
    (table.record occurrence).Summarizes (walk ++ [occurrence]) := by
  unfold SymbolTable.record
  split
  · next place hfound => exact h.count hfound
  · next hnone => exact h.push hnone

/-- A whole walk is summed up, less what has a synthetic name. -/
theorem ofOccurrences_summarizes (occurrences : List Occurrence) :
    (ofOccurrences occurrences).Summarizes
      (occurrences.filter fun occurrence => !isSynthetic occurrence.name) := by
  induction occurrences using List.reverseRecOn with
  | nil => exact empty_summarizes
  | append_singleton before last ih =>
      rw [ofOccurrences, List.foldl_concat, List.filter_append]
      change ((ofOccurrences before).add last).Summarizes _
      unfold add
      split
      · next hsynthetic => simpa [hsynthetic] using ih
      · next hkept => simpa [hkept] using ih.record last

end Step

section View

variable {table : SymbolTable} {walk : List Occurrence} {kind : SymbolKind} {name : String}

theorem get?_eq (table : SymbolTable) (kind : SymbolKind) (name : String) :
    table.get? kind name = (table.index.get? (kind, name)).bind fun place => table.symbols[place]? := by
  unfold get?
  split
  · next hnone => rw [hnone, Option.bind_none]
  · next place hplace =>
      have hbind : ((table.index.get? (kind, name)).bind fun place => table.symbols[place]?) =
          table.symbols[place]? := by rw [hplace, Option.bind_some]
      rw [hbind, List.getElem?_eq_getElem (table.inBounds hplace), List.get_eq_getElem]

theorem Summarizes.get?_eq_some_iff (h : table.Summarizes walk) {symbol : Symbol} :
    table.get? kind name = some symbol ↔ symbol ∈ table.symbols ∧ symbol.key = (kind, name) := by
  rw [get?_eq, Option.bind_eq_some_iff]
  simp only [h.places, List.getElem?_map, Option.map_eq_some_iff]
  constructor
  · rintro ⟨place, ⟨other, hother, hkey⟩, hplace⟩
    obtain rfl := Option.some.inj (hother.symm.trans hplace)
    exact ⟨List.mem_of_getElem? hplace, hkey⟩
  · rintro ⟨member, hkey⟩
    obtain ⟨place, hplace⟩ := List.mem_iff_getElem?.mp member
    exact ⟨place, ⟨symbol, hplace, hkey⟩, hplace⟩

theorem Summarizes.get?_eq_none_iff (h : table.Summarizes walk) :
    table.get? kind name = none ↔ (kind, name) ∉ walk.map Occurrence.key := by
  rw [Option.eq_none_iff_forall_ne_some, ← h.mem_keys_iff]
  simp only [ne_eq, h.get?_eq_some_iff, List.mem_map, not_and, not_exists]

theorem Summarizes.nodup (h : table.Summarizes walk) : (table.symbols.map Symbol.key).Nodup := by
  rw [List.nodup_iff_getElem?_ne_getElem?]
  intro first second hless hbound hsame
  have hsecond := List.getElem?_eq_getElem hbound
  exact Nat.ne_of_lt hless (h.place_unique (hsame.trans hsecond) hsecond)

/-- The number of occurrences by the table is that in the walk. -/
theorem Summarizes.occurrencesOf_eq (h : table.Summarizes walk) (kind : SymbolKind)
    (name : String) :
    table.occurrencesOf kind name = (walk.map Occurrence.key).count (kind, name) := by
  unfold occurrencesOf
  cases hfound : table.get? kind name with
  | none => exact (List.count_eq_zero.mpr (h.get?_eq_none_iff.mp hfound)).symm
  | some symbol =>
      obtain ⟨member, hkey⟩ := h.get?_eq_some_iff.mp hfound
      rw [← hkey]
      exact h.counted symbol member

theorem Summarizes.sum_eq (h : table.Summarizes walk) :
    (table.symbols.map Symbol.occurrences).sum = walk.length := by
  have hcounts : table.symbols.map Symbol.occurrences =
      (table.symbols.map Symbol.key).map fun key => (walk.map Occurrence.key).count key := by
    rw [List.map_map]
    exact List.map_congr_left h.counted
  have hperm : (table.symbols.map Symbol.key).Perm (walk.map Occurrence.key).dedup := by
    rw [List.perm_ext_iff_of_nodup h.nodup (List.nodup_dedup _)]
    intro key
    rw [h.mem_keys_iff, List.mem_dedup]
  have hsame : (instBEqProd : BEq (SymbolKind × String)) = instBEqOfDecidableEq :=
    lawful_beq_subsingleton _ _
  calc
    (table.symbols.map Symbol.occurrences).sum =
        ((walk.map Occurrence.key).dedup.map fun key => (walk.map Occurrence.key).count key).sum := by
      rw [hcounts]
      exact (hperm.map _).sum_eq
    _ = (walk.map Occurrence.key).length := by
      rw [hsame]
      exact List.sum_map_count_dedup_eq_length _
    _ = walk.length := List.length_map ..

end View

end SymbolTable

namespace CelTree

/-- What the walk over a document records: its occurrences in their order, less
those with synthetic names. -/
def recorded (tree : CelTree) : List Occurrence :=
  tree.occurrences.filter fun occurrence => !isSynthetic occurrence.name

/-- A document with the roots of another behind its own. -/
def append (tree more : CelTree) : CelTree := ⟨tree.roots ++ more.roots⟩

theorem recorded_append (tree more : CelTree) :
    (tree.append more).recorded = tree.recorded ++ more.recorded := by
  simp [recorded, append, occurrences]

/-- The table of a document sums its walk up: one symbol for each name of a
kind, in the order in which the walk first comes upon them, with the first place
and the number of occurrences. All occurrences are counted, once, and the counts
of further roots are added. A name is found exactly if it was recorded, at a
place that is one of the symbols'. -/
theorem symbols_summarize_walk (tree : CelTree) :
    tree.symbols.Summarizes tree.recorded ∧
      (tree.symbols.symbols.map Symbol.key).Nodup ∧
      (tree.symbols.symbols.map Symbol.occurrences).sum = tree.recorded.length ∧
      ∀ kind name,
        (∀ symbol, tree.symbols.get? kind name = some symbol ↔
          symbol ∈ tree.symbols.symbols ∧ symbol.kind = kind ∧ symbol.name = name) ∧
        (tree.symbols.get? kind name = none ↔
          ∀ occurrence ∈ tree.recorded, ¬ (occurrence.kind = kind ∧ occurrence.name = name)) ∧
        (∀ place, tree.symbols.index.get? (kind, name) = some place →
          place < tree.symbols.symbols.length) ∧
        ∀ more : CelTree, (tree.append more).symbols.occurrencesOf kind name =
          tree.symbols.occurrencesOf kind name + more.symbols.occurrencesOf kind name := by
  have hsummary (tree : CelTree) : tree.symbols.Summarizes tree.recorded :=
    SymbolTable.ofOccurrences_summarizes tree.occurrences
  refine ⟨hsummary tree, (hsummary tree).nodup, (hsummary tree).sum_eq, ?_⟩
  intro kind name
  refine ⟨?_, ?_, fun _ => tree.symbols.inBounds, ?_⟩
  · intro symbol
    rw [(hsummary tree).get?_eq_some_iff, Symbol.key, Prod.mk.injEq]
  · rw [(hsummary tree).get?_eq_none_iff]
    simp [Occurrence.key]
  · intro more
    rw [(hsummary _).occurrencesOf_eq, (hsummary _).occurrencesOf_eq, (hsummary _).occurrencesOf_eq,
      recorded_append, List.map_append, List.count_append]

end CelTree

end CelWatch
