/-
# What changes between two stores

The nodes and the edges of a store as finite sets, an edge with its endpoints.  Two stores
differ in the nodes that were created, deleted or changed, and in the edges that were
created or deleted; `card_edges_filter` counts edges the way a query does.
-/

import HomeCortex.Persistence.Surreal
import Mathlib

namespace HomeCortex

open scoped symmDiff

namespace Store

/-- The edges of a store: their identities and endpoints. -/
def edgeList (store : Store) : List (RecordID × RecordID × RecordID) :=
  store.entries.filterMap fun entry => entry.2.endpoints.map fun ends => (entry.1, ends)

/-- The edges of a store. -/
def edges (store : Store) : Finset (RecordID × RecordID × RecordID) := (edgeList store).toFinset

/-- The edges that two stores do not share: the created and the deleted ones. -/
def changedEdges (before after : Store) : Finset (RecordID × RecordID × RecordID) :=
  edges before ∆ edges after

/-- The nodes of a store. -/
def nodes (store : Store) : Finset RecordID :=
  ((store.select fun _ stored => stored.endpoints.isNone).map Prod.fst).toFinset

/-- The nodes that were created, deleted or changed. -/
def changedNodes (before after : Store) : Finset RecordID :=
  (nodes before ∪ nodes after).filter fun id => before.lookup id ≠ after.lookup id

variable {store before after : Store}

theorem mem_edges {id source target : RecordID} :
    (id, source, target) ∈ edges store ↔
      ∃ content, store.lookup id = some ⟨some (source, target), content⟩ := by
  simp only [edges, edgeList, List.mem_toFinset, List.mem_filterMap, Option.map_eq_some_iff,
    AList.lookup_eq_some_iff]
  constructor
  · rintro ⟨⟨key, endpoints, content⟩, hmem, ends, hends, heq⟩
    obtain ⟨rfl, rfl⟩ := Prod.mk.inj heq
    cases hends
    exact ⟨content, hmem⟩
  · rintro ⟨content, hmem⟩
    exact ⟨_, hmem, (source, target), rfl, rfl⟩

theorem mem_nodes {id : RecordID} :
    id ∈ nodes store ↔ ∃ content, store.lookup id = some ⟨none, content⟩ := by
  simp only [nodes, List.mem_toFinset, List.mem_map, Prod.exists, AList.mem_select,
    Option.isNone_iff_eq_none]
  constructor
  · rintro ⟨_, ⟨endpoints, content⟩, ⟨hlookup, rfl⟩, rfl⟩
    exact ⟨content, hlookup⟩
  · rintro ⟨content, hlookup⟩
    exact ⟨id, _, ⟨hlookup, rfl⟩, rfl⟩

theorem mem_changedNodes {id : RecordID} :
    id ∈ changedNodes before after ↔
      ((∃ content, before.lookup id = some ⟨none, content⟩) ∨
        ∃ content, after.lookup id = some ⟨none, content⟩) ∧ before.lookup id ≠ after.lookup id := by
  rw [changedNodes, Finset.mem_filter, Finset.mem_union, mem_nodes, mem_nodes]

theorem nodup_edgeList (store : Store) : (edgeList store).Nodup := by
  have hsublist : ((edgeList store).map Prod.fst).Sublist store.entries.keys := by
    rw [edgeList, List.keys]
    generalize store.entries = entries
    induction entries with
    | nil => exact .refl _
    | cons entry entries ih =>
        cases hends : entry.2.endpoints with
        | none => simpa [hends] using ih.cons _
        | some ends => simpa [hends] using ih
  exact (List.Nodup.sublist hsublist store.nodupKeys).of_map _

/-- How many edges satisfy a predicate. -/
theorem card_edges_filter {p : RecordID → StoredRecord → Bool}
    {q : RecordID × RecordID × RecordID → Prop} [DecidablePred q]
    (hedge : ∀ id ends content, p id ⟨some ends, content⟩ = true ↔ q (id, ends))
    (hnode : ∀ id content, p id ⟨none, content⟩ = false) :
    ((edges store).filter q).card = (store.select p).length := by
  have hfilter : (edges store).filter q = ((edgeList store).filter fun edge => q edge).toFinset := by
    ext edge
    simp [edges]
  rw [hfilter, List.toFinset_card_of_nodup ((nodup_edgeList store).filter _), edgeList,
    AList.select, List.length_map]
  generalize store.entries = entries
  induction entries with
  | nil => rfl
  | cons entry entries ih =>
      obtain ⟨id, endpoints, content⟩ := entry
      rcases endpoints with _ | ends
      · simpa [hnode] using ih
      · by_cases hq : q (id, ends)
        · simp [hq, (hedge id ends content).mpr hq, ih]
        · have hp : p id ⟨some ends, content⟩ = false := by
            rw [← Bool.not_eq_true]
            exact fun hp => hq ((hedge id ends content).mp hp)
          simp [hq, hp, ih]

end Store

end HomeCortex
