/-
# The item store over runs of calls

Items are records of the table `item`; where an item is, is its `located_in` edge,
whose identity is derived from both endpoints.  From any state that ingestion
produces, and over any sequence of calls of `mutate`, a creation or a move that is
applied leaves the item with exactly one location edge, which ends at the
requested place; edges that the service wrote join existing records; and a
deletion leaves no registered edge that mentions the item.

That a call leaves the other items alone needs one condition on the state before
it (`KeyFree`).  The key of an edge joins the two identities with `__`, and `_` is
a letter of identities, so two different pairs can share a key
(`locationEdgeId_collides`); writing such an edge replaces the edge of another
item.
-/

import HomeCortex.Mutation.Effects
import HomeCortex.Persistence.Ingested

namespace HomeCortex

open Ingestion

/-- The service of a household: item locations are the deployed `located_in` edges,
and items and places are not themselves edges. -/
structure HouseholdItemWriting extends ItemWritingService where
  location_is : location_schema = EdgeSchemaRegistry.locatedIn
  nodes_apart : ∀ table ∈ ["item", "address", "space"], table ∉ edge_registry.relationship_names

namespace HouseholdItemWriting

open ItemWritingService

/-- The edge a call writes is not at present the location edge of another item. -/
def KeyFree (service : HouseholdItemWriting) (call : MutateCall) (store : Store) : Prop :=
  ∀ edge, service.writesEdge call store = some edge →
    ∀ source target content, store.lookup edge = some ⟨some (source, target), content⟩ →
      source.table_name = "item" → source = call.request.item.id

variable {service : HouseholdItemWriting} {store after : Store} {request : WriteRequest}

theorem location_relation_eq : service.location_relation = "located_in" := by
  rw [location_relation, service.location_is]
  rfl

theorem locationEdgeId_table (item location : RecordID) :
    (service.locationEdgeId item location).table_name = "located_in" :=
  location_relation_eq

/-- A destination the relation admits is an address or a space. -/
theorem destination_type {table : String}
    (h : service.edge_registry.validate_endpoints service.location_relation "item" table = .ok ()) :
    table = "address" ∨ table = "space" := by
  have hadmits := (EdgeSchemaRegistry.validate_endpoints_eq_ok service.registered).1 h
  rw [service.location_is] at hadmits
  simpa [EdgeSchemaRegistry.locatedIn] using hadmits

/-! ### Deleting an item's edges -/

theorem lookup_deleteIncident {item id : RecordID} {stored : StoredRecord}
    (entries : List (String × Nat)) (store : Store) :
    (entries.foldl (fun store entry => store.deleteWhere fun id stored =>
        id.table_name == entry.1 && stored.mentions item) store).lookup id = some stored ↔
      store.lookup id = some stored ∧
        ∀ entry ∈ entries, id.table_name = entry.1 → stored.mentions item = false := by
  induction entries generalizing store with
  | nil => simp
  | cons entry entries ih =>
      rw [List.foldl_cons, ih, AList.lookup_deleteWhere_eq_some]
      simp only [List.forall_mem_cons, Bool.and_eq_false_imp, beq_iff_eq, and_assoc]

/-- The incident relations are the item relations with an edge that mentions the item. -/
theorem mem_incidentEdges {item : RecordID} {relation : String} :
    (∃ count, (relation, count) ∈ service.incidentEdges store item) ↔
      relation ∈ service.itemRelations ∧ ∃ id stored, id.table_name = relation ∧
        store.lookup id = some stored ∧ stored.mentions item = true := by
  simp only [incidentEdges, List.mem_filter, List.mem_map, Prod.mk.injEq]
  constructor
  · rintro ⟨count, ⟨name, hrelation, rfl, rfl⟩, hcount⟩
    have hne : store.select (fun id stored => id.table_name == name && stored.mentions item)
        ≠ [] := by
      simpa using hcount
    obtain ⟨⟨id, stored⟩, hmem⟩ := List.exists_mem_of_ne_nil _ hne
    obtain ⟨hlookup, hp⟩ := AList.mem_select.1 hmem
    simp only [Bool.and_eq_true, beq_iff_eq] at hp
    exact ⟨hrelation, id, stored, hp.1, hlookup, hp.2⟩
  · rintro ⟨hrelation, id, stored, rfl, hlookup, hmentions⟩
    have hmem : (id, stored) ∈ store.select fun other stored =>
        other.table_name == id.table_name && stored.mentions item :=
      AList.mem_select.2 ⟨hlookup, by simp [hmentions]⟩
    refine ⟨_, ⟨_, hrelation, rfl, rfl⟩, ?_⟩
    have hpos := List.length_pos_of_mem hmem
    simp only [bne_iff_ne, ne_eq]
    omega

/-- What is left after the effect of a deletion. -/
theorem lookup_deleted {item id : RecordID} {stored : StoredRecord} :
    (((service.incidentEdges store item).foldl (fun store entry =>
        store.deleteWhere fun id stored => id.table_name == entry.1 && stored.mentions item)
          store).erase item).lookup id = some stored ↔
      id ≠ item ∧ store.lookup id = some stored ∧
        (id.table_name ∈ service.itemRelations → stored.mentions item = false) := by
  by_cases hid : id = item
  · subst hid
    simp
  · rw [AList.lookup_erase_ne hid, lookup_deleteIncident]
    constructor
    · rintro ⟨hlookup, hdeleted⟩
      refine ⟨hid, hlookup, fun hrelation => ?_⟩
      by_contra hmentions
      obtain ⟨count, hentry⟩ := mem_incidentEdges.2
        ⟨hrelation, id, stored, rfl, hlookup, by simpa using hmentions⟩
      exact hmentions (hdeleted _ hentry rfl)
    · rintro ⟨-, hlookup, hdeleted⟩
      refine ⟨hlookup, fun entry hentry htable => hdeleted ?_⟩
      rw [htable]
      exact (mem_incidentEdges.1 ⟨entry.2, hentry⟩).1

/-! ### What each effect leaves alone -/

theorem not_relation_of_node {id : RecordID}
    (h : id.table_name ∈ ["item", "address", "space"]) : id.table_name ∉ service.itemRelations := by
  rw [itemRelations, List.mem_filter, not_and]
  exact fun hrelation => absurd hrelation (service.nodes_apart _ h)

theorem located_in_mem_itemRelations : "located_in" ∈ service.itemRelations := by
  have hmem := service.registered
  rw [service.location_is] at hmem
  rw [itemRelations, List.mem_filter]
  refine ⟨EdgeSchemaRegistry.mem_relationship_names.2 ⟨_, hmem, rfl⟩, ?_⟩
  have hfind : service.edge_registry.find? "located_in" = some EdgeSchemaRegistry.locatedIn :=
    EdgeSchemaRegistry.find?_eq_some.2 ⟨hmem, rfl⟩
  rw [hfind]
  rfl

/-- A node record other than the named item is unchanged. -/
theorem lookup_node_of_effect (h : Effect service.toItemWritingService store request after)
    {id : RecordID} (htable : id.table_name ∈ ["item", "address", "space"])
    (hne : id ≠ request.item.id) : after.lookup id = store.lookup id := by
  have hedge : ∀ item location, id ≠ service.locationEdgeId item location := by
    rintro item location rfl
    rw [locationEdgeId_table] at htable
    exact absurd htable (by decide)
  cases h with
  | created item properties location =>
      have hitem : id ≠ item.id := hne
      rw [Surreal.relate, AList.lookup_insert_ne (hedge _ _), Surreal.upsert,
        AList.lookup_insert_ne hitem]
  | placed item location => rw [Surreal.relate, AList.lookup_insert_ne (hedge _ _)]
  | moved item location =>
      rw [Surreal.relate, AList.lookup_insert_ne (hedge _ _)]
      refine AList.lookup_deleteWhere_of_keep fun stored _ => ?_
      have hrelation : id.table_name ≠ service.location_relation := by
        rw [location_relation_eq]
        rintro heq
        rw [heq] at htable
        exact absurd htable (by decide)
      simp [hrelation]
  | attributes item properties stored =>
      have hitem : id ≠ item.id := hne
      rw [AList.lookup_insert_ne hitem]
  | deleted item =>
      ext stored
      rw [lookup_deleted]
      exact ⟨fun hleft => hleft.2.1,
        fun hlookup => ⟨hne, hlookup, fun hrelation => absurd hrelation (not_relation_of_node htable)⟩⟩

/-- Relating an item changes the edges of another one only by taking their key. -/
theorem lookup_relate_other {item other place : RecordID} (hne : other ≠ item)
    {edge target : RecordID} {content : Fields}
    (hfree : ¬store.lookup (service.locationEdgeId item place)
      = some ⟨some (other, target), content⟩) :
    (Surreal.relate service.engine.keep store (service.locationEdgeId item place) item place
        []).lookup edge = some ⟨some (other, target), content⟩ ↔
      store.lookup edge = some ⟨some (other, target), content⟩ := by
  rw [Surreal.relate]
  by_cases hedge : edge = service.locationEdgeId item place
  · subst hedge
    rw [AList.lookup_insert]
    constructor
    · intro h
      simp only [Option.some.injEq, StoredRecord.mk.injEq, Prod.mk.injEq] at h
      exact absurd h.1.1.symm hne
    · exact fun h => absurd h hfree
  · rw [AList.lookup_insert_ne hedge]

/-- The target of a location edge is a place. -/
theorem target_of_located (htyped : EdgesTyped service.edge_registry store)
    {edge source target : RecordID} {content : Fields} (hedge : edge.table_name = "located_in")
    (hlookup : store.lookup edge = some ⟨some (source, target), content⟩) :
    target.table_name = "address" ∨ target.table_name = "space" := by
  obtain ⟨schema, -, hid, htypes⟩ := htyped edge source target content hlookup
  rw [hid, hedge, validateEndpointTypes_located_in, Spatial.locatedInEndpointsAllowed] at htypes
  simp only [Bool.or_eq_true, Bool.and_eq_true, beq_iff_eq] at htypes
  rcases htypes with ⟨-, htarget⟩ | ⟨-, htarget⟩
  · exact htarget
  · exact Or.inr htarget

/-- The location edges of the other items are unchanged, when the key that is
written is free. -/
theorem locatedAt_of_effect (h : Effect service.toItemWritingService store request after)
    (htyped : EdgesTyped service.edge_registry store) {other : RecordID}
    (hne : other ≠ request.item.id)
    (hfree : ∀ location, request.location? = some location → ∀ target content,
      ¬store.lookup (service.locationEdgeId request.item.id location.id)
        = some ⟨some (other, target), content⟩) {edge target : RecordID} {content : Fields} :
    LocatedAt service.toItemWritingService after other edge target content ↔
      LocatedAt service.toItemWritingService store other edge target content := by
  have hlookup : edge.table_name = "located_in" →
      (after.lookup edge = some ⟨some (other, target), content⟩ ↔
        store.lookup edge = some ⟨some (other, target), content⟩) := by
    intro hedge
    have hnode : ∀ item : ItemId, edge ≠ item.id := by
      rintro item rfl
      exact absurd (hedge.symm.trans item.is_item) (by decide)
    cases h with
    | created item properties location =>
        have hother : other ≠ item.id := hne
        have hedge' : (service.locationEdgeId item.id location.id).table_name ≠ item.id.table_name := by
          rw [locationEdgeId_table, item.is_item]
          decide
        rw [lookup_relate_other hother, Surreal.upsert, AList.lookup_insert_ne (hnode item)]
        rw [Surreal.upsert, AList.lookup_insert_ne fun heq => hedge' (congrArg _ heq)]
        exact hfree location rfl target content
    | placed item location => exact lookup_relate_other hne (hfree location rfl target content)
    | moved item location =>
        have hother : other ≠ item.id := hne
        rw [lookup_relate_other hother, AList.lookup_deleteWhere_eq_some]
        · refine ⟨fun h => h.1, fun h => ⟨h, ?_⟩⟩
          simp [StoredRecord.startsAt, hother]
        · rw [AList.lookup_deleteWhere_eq_some]
          exact fun h => hfree location rfl target content h.1
    | attributes item properties stored => rw [AList.lookup_insert_ne (hnode item)]
    | deleted item =>
        rw [lookup_deleted]
        refine ⟨fun h => h.2.1, fun h => ⟨hnode item, h, fun _ => ?_⟩⟩
        have hother : other ≠ item.id := hne
        have htarget : target ≠ item.id := by
          rintro rfl
          rcases target_of_located htyped hedge h with h | h <;>
            exact absurd (item.is_item.symm.trans h) (by decide)
        simp [StoredRecord.mentions, hother, htarget]
  constructor
  · rintro ⟨hrelation, h⟩
    exact ⟨hrelation, (hlookup (hrelation.trans location_relation_eq)).1 h⟩
  · rintro ⟨hrelation, h⟩
    exact ⟨hrelation, (hlookup (hrelation.trans location_relation_eq)).2 h⟩

/-! ### What each effect establishes -/

/-- Relating an item without a location edge gives it exactly the new one. -/
theorem located_relate {item place : RecordID}
    (hnone : ∀ edge target content,
      ¬LocatedAt service.toItemWritingService store item edge target content)
    {edge target : RecordID} {content : Fields} :
    LocatedAt service.toItemWritingService
        (Surreal.relate service.engine.keep store (service.locationEdgeId item place) item place [])
        item edge target content ↔
      edge = service.locationEdgeId item place ∧ target = place ∧
        content = service.engine.keep [] := by
  constructor
  · rintro ⟨hrelation, hlookup⟩
    by_cases hedge : edge = service.locationEdgeId item place
    · subst hedge
      rw [Surreal.relate, AList.lookup_insert] at hlookup
      simp only [Option.some.injEq, StoredRecord.mk.injEq, Prod.mk.injEq, true_and] at hlookup
      exact ⟨rfl, hlookup.1.symm, hlookup.2.symm⟩
    · rw [Surreal.relate, AList.lookup_insert_ne hedge] at hlookup
      exact absurd ⟨hrelation, hlookup⟩ (hnone edge target content)
  · rintro ⟨rfl, rfl, rfl⟩
    exact ⟨rfl, by rw [Surreal.relate, AList.lookup_insert]⟩

/-- An applied creation or move leaves exactly one location edge, to the place. -/
theorem located_of_effect (h : Effect service.toItemWritingService store request after)
    {location : PlaceId} (hlocation : request.location? = some location)
    {edge target : RecordID} {content : Fields} :
    LocatedAt service.toItemWritingService after request.item.id edge target content ↔
      edge = service.locationEdgeId request.item.id location.id ∧ target = location.id ∧
        content = service.engine.keep [] := by
  cases h with
  | created item properties location' _ _ hnone =>
      cases hlocation
      refine located_relate fun edge target content hlocated => ?_
      have hne : edge ≠ item.id := by
        rintro rfl
        have htable := hlocated.of_relation
        rw [location_relation_eq, item.is_item] at htable
        exact absurd htable (by decide)
      have hlookup := hlocated.lookup
      rw [Surreal.upsert, AList.lookup_insert_ne hne] at hlookup
      exact hnone edge target content ⟨hlocated.of_relation, hlookup⟩
  | placed item location' _ hnone =>
      cases hlocation
      exact located_relate hnone
  | moved item location' =>
      cases hlocation
      refine located_relate fun edge target content hlocated => ?_
      have hkept := (AList.lookup_deleteWhere_eq_some.1 hlocated.lookup).2
      have hrelation := hlocated.of_relation
      simp [StoredRecord.startsAt, hrelation] at hkept
  | attributes => cases hlocation
  | deleted => cases hlocation

/-- The edge that is written is well typed. -/
theorem edgesTyped_relate (htyped : EdgesTyped service.edge_registry store) (item : ItemId)
    {place : RecordID} (hadmitted : service.edge_registry.validate_endpoints
      service.location_relation "item" place.table_name = .ok ()) :
    EdgesTyped service.edge_registry (Surreal.relate service.engine.keep store
      (service.locationEdgeId item.id place) item.id place []) := by
  intro id source target content hlookup
  rw [Surreal.relate] at hlookup
  by_cases hid : id = service.locationEdgeId item.id place
  · subst hid
    rw [AList.lookup_insert] at hlookup
    simp only [Option.some.injEq, StoredRecord.mk.injEq, Prod.mk.injEq] at hlookup
    obtain ⟨⟨rfl, rfl⟩, -⟩ := hlookup
    refine ⟨service.location_schema, service.registered, rfl, ?_⟩
    have hallowed : Spatial.locatedInEndpointsAllowed item.id.table_name place.table_name = true := by
      rw [item.is_item]
      rcases destination_type hadmitted with h | h <;> rw [h] <;> rfl
    rw [service.location_is]
    exact validateEndpointTypes_located_in.2 hallowed
  · rw [AList.lookup_insert_ne hid] at hlookup
    exact htyped id source target content hlookup

theorem edgesTyped_deleteWhere (htyped : EdgesTyped service.edge_registry store)
    (p : RecordID → StoredRecord → Bool) :
    EdgesTyped service.edge_registry (store.deleteWhere p) :=
  fun id source target content hlookup =>
    htyped id source target content (AList.lookup_deleteWhere_eq_some.1 hlookup).1

/-- Every effect keeps the edges well typed. -/
theorem edgesTyped_of_effect (h : Effect service.toItemWritingService store request after)
    (htyped : EdgesTyped service.edge_registry store) : EdgesTyped service.edge_registry after := by
  cases h with
  | created item properties location _ _ _ hadmitted =>
      refine edgesTyped_relate (fun id source target content hlookup => ?_) item hadmitted
      rw [Surreal.upsert] at hlookup
      by_cases hid : id = item.id
      · subst hid
        simp at hlookup
      · rw [AList.lookup_insert_ne hid] at hlookup
        exact htyped id source target content hlookup
  | placed item location _ _ hadmitted => exact edgesTyped_relate htyped item hadmitted
  | moved item location _ hadmitted =>
      exact edgesTyped_relate (edgesTyped_deleteWhere htyped _) item hadmitted
  | attributes item properties stored hstored =>
      intro id source target content hlookup
      by_cases hid : id = item.id
      · subst hid
        rw [AList.lookup_insert] at hlookup
        simp only [Option.some.injEq, StoredRecord.mk.injEq] at hlookup
        obtain ⟨endpoints, before⟩ := stored
        obtain ⟨rfl, -⟩ := hlookup
        exact htyped item.id source target before hstored
      · rw [AList.lookup_insert_ne hid] at hlookup
        exact htyped id source target content hlookup
  | deleted item =>
      intro id source target content hlookup
      exact htyped id source target content (lookup_deleted.1 hlookup).2.1

/-- A well-typed edge that mentions an item is of an item relation. -/
theorem mem_itemRelations_of_mentions (htyped : EdgesTyped service.edge_registry store)
    {item : ItemId} {id : RecordID} {stored : StoredRecord}
    (hlookup : store.lookup id = some stored) (hmentions : stored.mentions item.id = true) :
    id.table_name ∈ service.itemRelations := by
  obtain ⟨endpoints, content⟩ := stored
  rcases endpoints with _ | ⟨source, target⟩
  · cases hmentions
  obtain ⟨schema, hschema, hid, htypes⟩ := htyped id source target content hlookup
  rw [← hid]
  by_cases hlocated : schema.id = "located_in"
  · rw [hlocated]
    exact located_in_mem_itemRelations
  rw [validateEndpointTypes, if_neg hlocated,
    EdgeSchemaRegistry.validate_endpoints_eq_ok hschema] at htypes
  rw [itemRelations, List.mem_filter, EdgeSchemaRegistry.find?_eq_some.2 ⟨hschema, rfl⟩]
  refine ⟨EdgeSchemaRegistry.mem_relationship_names.2 ⟨schema, hschema, rfl⟩, ?_⟩
  simp only [StoredRecord.mentions, Bool.or_eq_true, beq_iff_eq] at hmentions
  simp only [Bool.or_eq_true, List.contains_iff_mem]
  rcases hmentions with rfl | rfl
  · rw [item.is_item] at htypes
    rcases htypes with ⟨h, -⟩ | ⟨-, h, -⟩
    · exact Or.inl h
    · exact Or.inr h
  · rw [item.is_item] at htypes
    rcases htypes with ⟨-, h⟩ | ⟨-, -, h⟩
    · exact Or.inr h
    · exact Or.inl h

/-- An applied deletion leaves no edge that mentions the item. -/
theorem mentions_of_deleted (h : Effect service.toItemWritingService store request after)
    (htyped : EdgesTyped service.edge_registry store) {item : ItemId} {mode : WriteMode}
    (hrequest : request = .delete item mode) {id : RecordID} {stored : StoredRecord}
    (hlookup : after.lookup id = some stored) : stored.mentions item.id = false := by
  cases h with
  | deleted item' =>
      cases hrequest
      obtain ⟨-, hbefore, hdeleted⟩ := lookup_deleted.1 hlookup
      by_contra hmentions
      exact hmentions (hdeleted (mem_itemRelations_of_mentions htyped hbefore
        (by simpa using hmentions)))
  | created => cases hrequest
  | placed => cases hrequest
  | moved => cases hrequest
  | attributes => cases hrequest

/-! ### Runs of calls -/

/-- Every written edge that is stored joins an existing item to an existing place. -/
def WrittenJoin (store : Store) (written : List RecordID) : Prop :=
  ∀ edge ∈ written, edge.table_name = "located_in" ∧
    ∀ source target content, store.lookup edge = some ⟨some (source, target), content⟩ →
      source.table_name = "item" ∧ (target.table_name = "address" ∨ target.table_name = "space") ∧
        (store.lookup source).isSome = true ∧ (store.lookup target).isSome = true

/-- A record other than the written item and edge stays. -/
theorem isSome_insert {record id : RecordID} {stored : StoredRecord}
    (h : (store.lookup id).isSome = true) : ((store.insert record stored).lookup id).isSome = true := by
  by_cases hid : id = record
  · subst hid
    rw [AList.lookup_insert]
    rfl
  · rwa [AList.lookup_insert_ne hid]

/-- Relating adds one edge that joins existing records. -/
theorem writtenJoin_relate {written : List RecordID} (hjoin : WrittenJoin store written)
    (item : ItemId) {place : RecordID}
    (hadmitted : service.edge_registry.validate_endpoints service.location_relation "item"
      place.table_name = .ok ())
    (hitem : (store.lookup item.id).isSome = true) (hplace : (store.lookup place).isSome = true) :
    WrittenJoin (Surreal.relate service.engine.keep store (service.locationEdgeId item.id place)
      item.id place []) (service.locationEdgeId item.id place :: written) := by
  intro edge hedge
  have htable : edge.table_name = "located_in" := by
    rcases List.mem_cons.1 hedge with rfl | hedge
    · exact locationEdgeId_table _ _
    · exact (hjoin edge hedge).1
  refine ⟨htable, fun source target content hlookup => ?_⟩
  rw [Surreal.relate] at hlookup ⊢
  by_cases hne : edge = service.locationEdgeId item.id place
  · subst hne
    rw [AList.lookup_insert] at hlookup
    simp only [Option.some.injEq, StoredRecord.mk.injEq, Prod.mk.injEq] at hlookup
    obtain ⟨⟨rfl, rfl⟩, -⟩ := hlookup
    exact ⟨item.is_item, destination_type hadmitted, isSome_insert hitem, isSome_insert hplace⟩
  · rw [AList.lookup_insert_ne hne] at hlookup
    obtain ⟨hsource, htarget, hs, ht⟩ :=
      (hjoin edge ((List.mem_cons.1 hedge).resolve_left hne)).2 source target content hlookup
    exact ⟨hsource, htarget, isSome_insert hs, isSome_insert ht⟩

/-- Every effect keeps the written edges joined; it adds at most the edge of its
location. -/
theorem writtenJoin_of_effect (h : Effect service.toItemWritingService store request after)
    {written : List RecordID} (hjoin : WrittenJoin store written) :
    WrittenJoin after ((request.location?.map fun location =>
      service.locationEdgeId request.item.id location.id).toList ++ written) := by
  cases h with
  | created item properties location _ hmissing _ hadmitted hplace =>
      refine writtenJoin_relate (fun edge hedge => ⟨(hjoin edge hedge).1, ?_⟩) item hadmitted
        (by simp [Surreal.upsert]) (by rw [Surreal.upsert]; exact isSome_insert hplace)
      intro source target content hlookup
      rw [Surreal.upsert] at hlookup ⊢
      have hne : edge ≠ item.id := by
        rintro rfl
        exact absurd ((hjoin _ hedge).1.symm.trans item.is_item) (by decide)
      rw [AList.lookup_insert_ne hne] at hlookup
      obtain ⟨hsource, htarget, hs, ht⟩ := (hjoin edge hedge).2 source target content hlookup
      exact ⟨hsource, htarget, isSome_insert hs, isSome_insert ht⟩
  | placed item location hitem _ hadmitted hplace =>
      exact writtenJoin_relate hjoin item hadmitted hitem hplace
  | moved item location hitem hadmitted hplace =>
      have hkeep : ∀ {id : RecordID}, id.table_name ≠ "located_in" →
          (store.lookup id).isSome = true → ((store.deleteWhere fun id stored =>
            id.table_name == service.location_relation && stored.startsAt item.id).lookup id).isSome
              = true := by
        intro id htable hid
        rwa [AList.lookup_deleteWhere_of_keep fun stored _ => by
          simp [location_relation_eq, htable]]
      have hitem' : item.id.table_name ≠ "located_in" := by
        rw [item.is_item]
        decide
      have hplace' : location.id.table_name ≠ "located_in" := by
        rcases destination_type hadmitted with h | h <;> rw [h] <;> decide
      refine writtenJoin_relate (fun edge hedge => ⟨(hjoin edge hedge).1, ?_⟩) item hadmitted
        (hkeep hitem' hitem) (hkeep hplace' hplace)
      intro source target content hlookup
      obtain ⟨hsource, htarget, hs, ht⟩ := (hjoin edge hedge).2 source target content
        (AList.lookup_deleteWhere_eq_some.1 hlookup).1
      refine ⟨hsource, htarget, hkeep (by rw [hsource]; decide) hs, hkeep ?_ ht⟩
      rcases htarget with h | h <;> rw [h] <;> decide
  | attributes item properties stored =>
      intro edge hedge
      refine ⟨(hjoin edge hedge).1, fun source target content hlookup => ?_⟩
      have hne : edge ≠ item.id := by
        rintro rfl
        exact absurd ((hjoin _ hedge).1.symm.trans item.is_item) (by decide)
      rw [AList.lookup_insert_ne hne] at hlookup
      obtain ⟨hsource, htarget, hs, ht⟩ := (hjoin edge hedge).2 source target content hlookup
      exact ⟨hsource, htarget, isSome_insert hs, isSome_insert ht⟩
  | deleted item =>
      intro edge hedge
      obtain ⟨htable, hbefore⟩ := hjoin edge hedge
      refine ⟨htable, fun source target content hlookup => ?_⟩
      obtain ⟨-, hstored, hdeleted⟩ := lookup_deleted.1 hlookup
      obtain ⟨hsource, htarget, hs, ht⟩ := hbefore source target content hstored
      have hmentions := hdeleted (htable ▸ located_in_mem_itemRelations)
      simp only [StoredRecord.mentions, Bool.or_eq_false_iff, beq_eq_false_iff_ne] at hmentions
      have hkeep : ∀ {id : RecordID}, id.table_name ∈ ["item", "address", "space"] →
          id ≠ item.id → (store.lookup id).isSome = true →
          ((((service.incidentEdges store item.id).foldl (fun store entry =>
            store.deleteWhere fun id stored => id.table_name == entry.1 && stored.mentions item.id)
              store).erase item.id).lookup id).isSome = true := by
        intro id hnode hne hid
        obtain ⟨stored, hid⟩ := Option.isSome_iff_exists.1 hid
        rw [lookup_deleted.2 ⟨hne, hid, fun hrelation =>
          absurd hrelation (not_relation_of_node hnode)⟩]
        rfl
      refine ⟨hsource, htarget, hkeep (by simp [hsource]) hmentions.1 hs, hkeep ?_ hmentions.2 ht⟩
      rcases htarget with h | h <;> simp [h]

/-- What one call of a run guarantees, given the edges written up to and including
it. -/
structure CallGuarantee (service : HouseholdItemWriting) (call : MutateCall) (before : Store)
    (written : List RecordID) : Prop where
  /-- An applied creation or move leaves exactly one location edge, to its place. -/
  placed : (service.mutate call before).1.status = .applied →
    ∀ location, call.request.location? = some location → ∃ edge, ∀ edge' target content,
      LocatedAt service.toItemWritingService (service.mutate call before).2 call.request.item.id
        edge' target content ↔
      edge' = edge ∧ target = location.id ∧ content = service.engine.keep []
  /-- The records of the other items are unchanged. -/
  other_records : ∀ other : RecordID, other.table_name = "item" → other ≠ call.request.item.id →
    (service.mutate call before).2.lookup other = before.lookup other
  /-- The locations of the other items are unchanged. -/
  other_locations : ∀ other : RecordID, other.table_name = "item" →
    other ≠ call.request.item.id → ∀ edge target content,
      LocatedAt service.toItemWritingService (service.mutate call before).2 other edge target
        content ↔
      LocatedAt service.toItemWritingService before other edge target content
  /-- The edges written so far join existing items and places. -/
  joins : WrittenJoin (service.mutate call before).2 written
  /-- An applied deletion leaves no registered edge that mentions its item. -/
  deleted : (service.mutate call before).1.status = .applied →
    ∀ mode, call.request = .delete call.request.item mode → ∀ schema ∈ service.edge_registry.schemas,
      ∀ id stored, id.table_name = schema.id →
        (service.mutate call before).2.lookup id = some stored →
          stored.mentions call.request.item.id = false

/-- **One call.**  From well-typed edges, a call whose key is free guarantees all of
it, and keeps the edges well typed. -/
theorem callGuarantee {call : MutateCall} {before : Store}
    (htyped : EdgesTyped service.edge_registry before) {written : List RecordID}
    (hjoin : WrittenJoin before written) (hfree : KeyFree service call before) :
    EdgesTyped service.edge_registry (service.mutate call before).2 ∧
      CallGuarantee service call before ((service.writesEdge call before).toList ++ written) := by
  rcases @mutate_outcome service.toItemWritingService call before with
    ⟨hunchanged, hstatus, hedge⟩ | ⟨heffect, hedge⟩
  · refine ⟨by rwa [hunchanged], ?_, ?_, ?_, ?_, ?_⟩
    · exact fun h => absurd h hstatus
    · exact fun other _ _ => by rw [hunchanged]
    · exact fun other _ _ edge target content => by rw [hunchanged]
    · rw [hunchanged, hedge]
      exact hjoin
    · exact fun h => absurd h hstatus
  · refine ⟨edgesTyped_of_effect heffect htyped, ?_, ?_, ?_, ?_, ?_⟩
    · exact fun _ location hlocation => ⟨_, fun _ _ _ => located_of_effect heffect hlocation⟩
    · exact fun other hitem hne => lookup_node_of_effect heffect (by simp [hitem]) hne
    · intro other hitem hne edge target content
      refine locatedAt_of_effect heffect htyped hne fun location hlocation target content hlookup => ?_
      exact hne (hfree _ (by rw [hedge, hlocation]; rfl) other target content hlookup hitem)
    · rw [hedge]
      exact writtenJoin_of_effect heffect hjoin
    · intro _ mode hrequest schema _ id stored _ hlookup
      exact mentions_of_deleted heffect htyped hrequest hlookup

/-- Every call of a run from `store` finds its key free. -/
def KeysFree (service : HouseholdItemWriting) : List MutateCall → Store → Prop
  | [], _ => True
  | call :: calls, store =>
      KeyFree service call store ∧ KeysFree service calls (service.mutate call store).2

/-- Every call of a run from `store`, after the edges `written`, keeps its guarantee. -/
def Guaranteed (service : HouseholdItemWriting) : List MutateCall → Store → List RecordID → Prop
  | [], _, _ => True
  | call :: calls, store, written =>
      CallGuarantee service call store ((service.writesEdge call store).toList ++ written) ∧
        Guaranteed service calls (service.mutate call store).2
          ((service.writesEdge call store).toList ++ written)

theorem guaranteed_of_typed (calls : List MutateCall) {before : Store} {written : List RecordID}
    (htyped : EdgesTyped service.edge_registry before) (hjoin : WrittenJoin before written)
    (hfree : KeysFree service calls before) : Guaranteed service calls before written := by
  induction calls generalizing before written with
  | nil => trivial
  | cons call calls ih =>
      obtain ⟨htyped', hguarantee⟩ := callGuarantee htyped hjoin hfree.1
      exact ⟨hguarantee, ih htyped' hguarantee.joins hfree.2⟩

/-- **The item store invariant.**  In every run of calls from a state that ingestion
produces, if every call finds its key free, every call keeps its guarantee. -/
theorem mutate_runs_guaranteed (service : HouseholdItemWriting) {initial : Store}
    (hinitial : Ingested service.engine.keep service.edge_registry initial)
    (calls : List MutateCall) (hfree : KeysFree service calls initial) :
    Guaranteed service calls initial [] :=
  guaranteed_of_typed calls hinitial.edgesTyped (fun _ h => absurd h List.not_mem_nil) hfree

/-! ### The deployed service -/

/-- The service over the deployed schemas, with a database that drops nulls. -/
def deployed : HouseholdItemWriting where
  engine := ⟨dropNulls, Fields.merge⟩
  item_schema := some ⟨"item", ["brand", "color", "description", "expiration_date", "item_type",
      "model", "name", "quantity", "unit"],
    [("brand", .string), ("color", .string), ("description", .string), ("expiration_date", .date),
      ("item_type", .string), ("model", .string), ("quantity", .number), ("unit", .string)]⟩
  edge_registry := EdgeSchemaRegistry.deployed
  writable := ["item_type", "brand", "model", "color", "quantity", "unit", "description",
    "expiration_date"]
  location_schema := EdgeSchemaRegistry.locatedIn
  registered := by decide
  unique_from := rfl
  admits_space := rfl
  location_is := rfl
  nodes_apart := by decide

/-- A spoon is put into the cupboard, then the mug is deleted. -/
def spoonCalls : List MutateCall := [
  ⟨.create ⟨⟨"item", "spoon"⟩, by decide, rfl⟩
    ⟨[("name", .arr [.str "Spoon"])], by decide, by decide⟩
    ⟨⟨"space", "cupboard"⟩, by decide⟩ .commit, Faults.none⟩,
  ⟨.delete ⟨⟨"item", "mug"⟩, by decide, rfl⟩ .commit, Faults.none⟩]

/-- The keys of `spoonCalls` are free, from the state `mugSource` leaves. -/
theorem spoonCalls_guaranteed :
    Guaranteed deployed spoonCalls (write dropNulls mugPrepared ∅) [] := by
  have hstep : ingestDirectory dropNulls EdgeSchemaRegistry.deployed mugSource ∅
      = .ok (write dropNulls mugPrepared ∅, ⟨2, 2, 2, 1⟩) := by
    rfl
  refine mutate_runs_guaranteed deployed (.ingest .empty hstep) spoonCalls ⟨?_, ?_, trivial⟩
  · intro edge hedge source target content hlookup
    cases hedge.symm.trans (show _ = some _ from rfl)
    cases hlookup.symm.trans (show _ = none from rfl)
  · intro edge hedge
    cases hedge.symm.trans (show _ = none from rfl)

/-- Two items whose edges to two spaces have one key. -/
def collidingSource : SourceDir where
  node_files := [
    ("item", ⟨"nodes/item.json", .ok (.arr [.obj [("id", .str "item:a")],
      .obj [("id", .str "item:a__space_x")]])⟩),
    ("space", ⟨"nodes/space.json", .ok (.arr [.obj [("id", .str "space:b")],
      .obj [("id", .str "space:x__space_b")]])⟩)]
  node_shards := []
  edge_files := [
    ("hosted_by", ⟨"edges/hosted_by.json", .ok (.arr [])⟩),
    ("located_in", ⟨"edges/located_in.json", .ok (.arr [
      .obj [("from", .str "item:a"), ("to", .str "space:b")],
      .obj [("from", .str "item:a__space_x"), ("to", .str "space:b")]])⟩)]
  nodup_files := by decide
  nodup_shards := List.nodup_nil
  nodup_edges := by decide

/-- The first item is moved. -/
def collidingCall : MutateCall :=
  ⟨.updateLocation ⟨⟨"item", "a"⟩, by decide, rfl⟩ ⟨⟨"space", "x__space_b"⟩, by decide⟩ .commit,
    Faults.none⟩

/-- Two pairs with one key. -/
theorem locationEdgeId_collides :
    deployed.locationEdgeId ⟨"item", "a"⟩ ⟨"space", "x__space_b"⟩
      = deployed.locationEdgeId ⟨"item", "a__space_x"⟩ ⟨"space", "b"⟩ := by
  decide

/-- **Moving one item takes the location of another.**  After the ingestion of
`collidingSource`, moving `item:a` is applied and leaves `item:a__space_x` without
a location. -/
theorem collidingCall_not_guaranteed :
    ∃ initial, Ingested deployed.engine.keep deployed.edge_registry initial ∧
      (deployed.mutate collidingCall initial).1.status = .applied ∧
      deployed.currentLocations initial ⟨"item", "a__space_x"⟩ = ["space:b"] ∧
      deployed.currentLocations (deployed.mutate collidingCall initial).2 ⟨"item", "a__space_x"⟩
        = [] ∧
      ¬Guaranteed deployed [collidingCall] initial [] := by
  refine ⟨_, @Ingested.ingest _ _ _ _ collidingSource _ .empty rfl, by decide, by decide, by decide, ?_⟩
  rintro ⟨hguarantee, -⟩
  have hlocation := (hguarantee.other_locations ⟨"item", "a__space_x"⟩ rfl (by decide)
    ⟨"located_in", "item_a__space_x__space_b"⟩ ⟨"space", "b"⟩ []).2 ⟨rfl, by decide⟩
  exact absurd hlocation.lookup (by decide)

end HouseholdItemWriting
end HomeCortex
