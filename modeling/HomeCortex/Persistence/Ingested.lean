/-
# The states that ingestion produces

`Ingested` are the stores reached from an empty database by successful
ingestions, whatever their sources.  In every one of them each edge record joins
endpoints of types that ingestion admits for its relation (`EdgesTyped`).
-/

import HomeCortex.Persistence.Mirror

namespace HomeCortex
namespace Ingestion

/-- The stores that successful ingestions produce from an empty database. -/
inductive Ingested (keep : Fields → Fields) (registry : EdgeSchemaRegistry) : Store → Prop
  | empty : Ingested keep registry ∅
  | ingest {before after : Store} {dir : SourceDir} {result : IngestionResult}
      (previous : Ingested keep registry before)
      (step : ingestDirectory keep registry dir before = .ok (after, result)) :
      Ingested keep registry after

/-- Every edge record is of a registered relation and has endpoint types that
ingestion admits for it. -/
def EdgesTyped (registry : EdgeSchemaRegistry) (store : Store) : Prop :=
  ∀ id source target content, store.lookup id = some ⟨some (source, target), content⟩ →
    ∃ schema ∈ registry.schemas, schema.id = id.table_name ∧
      validateEndpointTypes registry schema.id source target = .ok ()

variable {keep : Fields → Fields} {registry : EdgeSchemaRegistry} {prepared : Prepared}
  {store : Store}

/-- A record after writing was written as a node or an edge, or was there. -/
theorem lookup_write_cases (h : prepared.Valid registry) {id : RecordID} {stored : StoredRecord}
    (hlookup : (write keep prepared store).lookup id = some stored) :
    (∃ table ∈ prepared.nodes, ∃ node ∈ table.2, nodeEntry keep node = (id, stored)) ∨
      (∃ relation ∈ prepared.edges, ∃ edge ∈ relation.2, edgeEntry keep edge = (id, stored)) ∨
      store.lookup id = some stored := by
  rw [lookup_write h] at hlookup
  cases hlast : (tableWrites keep prepared).reverse.lookup id.table_name with
  | none =>
      rw [hlast] at hlookup
      exact Or.inr (Or.inr hlookup)
  | some entries =>
      rw [hlast] at hlookup
      have hentry := AList.mem_of_lookup_eq_some hlookup
      have hwrite := List.mem_reverse.1 (AList.mem_of_lookup_eq_some hlast)
      rcases mem_tableWrites.1 hwrite with ⟨table, htable, heq⟩ | ⟨relation, hrelation, heq⟩ |
        ⟨table, -, heq⟩
      · obtain ⟨-, rfl⟩ := Prod.mk.inj heq
        exact Or.inl ⟨table, htable, List.mem_map.1 hentry⟩
      · obtain ⟨-, rfl⟩ := Prod.mk.inj heq
        exact Or.inr (Or.inl ⟨relation, hrelation, List.mem_map.1 hentry⟩)
      · obtain ⟨-, rfl⟩ := Prod.mk.inj heq
        exact absurd hentry List.not_mem_nil

theorem edgesTyped_write (h : prepared.Valid registry) (htyped : EdgesTyped registry store) :
    EdgesTyped registry (write keep prepared store) := by
  intro id source target content hlookup
  rcases lookup_write_cases h hlookup with ⟨_, _, node, _, hentry⟩ |
    ⟨relation, hrelation, edge, hedge, hentry⟩ | hbefore
  · simp [nodeEntry] at hentry
  · obtain ⟨schema, hschema, hid, hprepared⟩ := h.relations relation hrelation
    simp only [edgeEntry, Prod.mk.injEq, StoredRecord.mk.injEq, Option.some.injEq] at hentry
    obtain ⟨rfl, ⟨rfl, rfl⟩, -⟩ := hentry
    exact ⟨schema, hschema, (hprepared.of_relation edge hedge).symm,
      hprepared.endpoint_types edge hedge⟩
  · exact htyped id source target content hbefore

/-- **Ingestion admits no badly typed edge.** -/
theorem Ingested.edgesTyped (h : Ingested keep registry store) : EdgesTyped registry store := by
  induction h with
  | empty => exact fun id source target content hlookup => by simp at hlookup
  | ingest previous step ih =>
      obtain ⟨sources, prepared, -, hprepare, rfl, -⟩ := ingestDirectory_eq_ok.1 step
      exact edgesTyped_write (prepared_valid hprepare) ih

end Ingestion
end HomeCortex
