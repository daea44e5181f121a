import CelWatch.Document.Context
import CelWatch.Lists
import CelWatch.Registry

/-!
The contexts of all documents that are tracked, by identity.
-/

namespace CelWatch

abbrev Store (Tree Metadata : Type) := Registry Uri (Context Tree Metadata)

/-- The diagnostics of all documents; those of one document stand together and
in their order. -/
def Store.diagnostics {Tree Metadata : Type} (store : Store Tree Metadata) : List Diagnostic :=
  store.values.flatMap Context.diagnostics

namespace Store

variable {Tree Metadata : Type}

/-- The diagnostics of one document; none when it is not tracked. -/
def diagnosticsOf (store : Store Tree Metadata) (uri : Uri) : List Diagnostic :=
  ((store.get? uri).map Context.diagnostics).getD []

theorem diagnostics_eq_flatMap (store : Store Tree Metadata) :
    store.diagnostics = store.keys.flatMap store.diagnosticsOf := by
  let listed : Option (Context Tree Metadata) → List Diagnostic :=
    fun stored => (stored.map Context.diagnostics).getD []
  calc
    store.values.flatMap Context.diagnostics = (store.values.map some).flatMap listed := by
      rw [List.flatMap_map]
      rfl
    _ = (store.keys.map store.get?).flatMap listed := by rw [Registry.map_get?_keys]
    _ = store.keys.flatMap store.diagnosticsOf := List.flatMap_map _ _ _

/-- A context that has the diagnostics of the one it replaces, or none when it
replaces none, leaves the list as it is. -/
theorem diagnostics_insert_of_eq (store : Store Tree Metadata) {uri : Uri}
    {context : Context Tree Metadata} (h : context.diagnostics = store.diagnosticsOf uri) :
    Store.diagnostics (store.insert uri context) = store.diagnostics := by
  have hview : Store.diagnosticsOf (store.insert uri context) = store.diagnosticsOf := by
    funext key
    by_cases hkey : key = uri
    · subst hkey
      simpa [diagnosticsOf] using h
    · rw [diagnosticsOf, Registry.get?_insert_of_ne store context hkey, diagnosticsOf]
  rw [diagnostics_eq_flatMap, diagnostics_eq_flatMap, hview, Registry.keys_insert]
  split
  · rfl
  · next hnew =>
      have hnone : store.get? uri = none := by
        simpa [Registry.mem_keys_iff] using hnew
      simp [diagnosticsOf, hnone]

/-- Where every document has diagnostics of its own only, the list has for a
document what its context has. -/
theorem filter_diagnostics {store : Store Tree Metadata}
    (hown : ∀ uri context, store.get? uri = some context →
      ∀ diagnostic ∈ context.diagnostics, diagnostic.uri = uri) (uri : Uri) :
    (Store.diagnostics store).filter (·.uri = uri) = Store.diagnosticsOf store uri := by
  have hmine : ∀ key, ∀ diagnostic ∈ Store.diagnosticsOf store key, diagnostic.uri = key := by
    intro key diagnostic member
    unfold Store.diagnosticsOf at member
    cases hstored : store.get? key with
    | none =>
        rw [hstored] at member
        cases member
    | some context =>
        rw [hstored] at member
        exact hown key context hstored diagnostic member
  have hself : (Store.diagnosticsOf store uri).filter (·.uri = uri) =
      Store.diagnosticsOf store uri := by
    refine List.filter_eq_self.mpr fun diagnostic member => ?_
    exact decide_eq_true (hmine uri diagnostic member)
  rw [Store.diagnostics_eq_flatMap, List.filter_flatMap]
  refine (Lists.flatMap_eq_of_nodup store.nodup ?_ ?_).trans hself
  · intro other _ hother
    refine List.filter_eq_nil_iff.mpr fun diagnostic member hsame => hother ?_
    exact (hmine other diagnostic member).symm.trans (of_decide_eq_true hsame)
  · intro habsent
    rw [hself, Store.diagnosticsOf]
    change uri ∉ store.keys at habsent
    rw [Registry.mem_keys_iff, Bool.not_eq_true, Option.isSome_eq_false_iff,
      Option.isNone_iff_eq_none] at habsent
    rw [habsent]
    rfl

end Store

end CelWatch
