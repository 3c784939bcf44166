/-
# What the reports of the item writer say

`agree_iff` says exactly when a preview and the commit from one state agree and the report
of an applied commit is true (`Faithful`).  A creation or a move needs a free key: the key
of a location edge joins two identities with `__`, so it may be the key of another item's
edge, which is then replaced without a word of it in the report.  A deletion needs the
edges that mention the item to be of relations that admit items, as ingestion makes them.

The service is one whose catalog declares the writable fields, as `from_data_dir` does,
over a database that does what SurrealQL says of `CONTENT` and `MERGE`
(`Engine.Documented`).
-/

import HomeCortex.Common.CanonicalJson
import HomeCortex.Mutation.ItemStore
import HomeCortex.Mutation.Preview
import Mathlib

namespace HomeCortex

open scoped symmDiff

/-- What SurrealQL says of `CONTENT` and of `MERGE` with scalars: every given field has its
value, where a null may be dropped, and `MERGE` keeps the other fields. -/
structure Engine.Documented (engine : Engine) : Prop where
  keep_getD : ∀ content : Fields, (content.map Prod.fst).Nodup → ∀ key,
    (engine.keep content).getD key = content.getD key
  merge_getD : ∀ content changes : Fields, (changes.map Prod.fst).Nodup →
    (∀ change ∈ changes, change.2.isScalar = true) → ∀ key,
    (engine.merge content changes).getD key = (changes.get? key).getD (content.getD key)

/-- The service of a household whose catalog gives the writable fields the kinds that an
ontology may declare for them; identity fields are not among them. -/
structure CatalogItemWriting extends HouseholdItemWriting where
  documented : engine.Documented
  scalar_kinds : ∀ schema, item_schema = some schema → ∀ field ∈ writable,
    schema.kindOf field ∈ [ValueKind.string, .number, .integer, .boolean, .date]
  no_identity : ∀ field ∈ ["id", "in", "out"], field ∉ writable

namespace CatalogItemWriting

open Except Ingestion ItemWritingService HouseholdItemWriting

/-- The state does not hide anything from the report of a request. -/
def Faithful (service : CatalogItemWriting) (store : Store) : WriteRequest → Prop
  | .create item _ location _ | .updateLocation item location _ => ∀ stored,
      store.lookup (service.locationEdgeId item.id location.id) = some stored →
        stored.startsAt item.id = true
  | .updateAttributes item _ _ => ∀ stored,
      store.lookup item.id = some stored → stored.endpoints = none
  | .delete item _ => (∀ stored, store.lookup item.id = some stored → stored.endpoints = none) ∧
      ∀ id stored, store.lookup id = some stored → stored.mentions item.id = true →
        id.table_name ∈ service.itemRelations

variable {service : CatalogItemWriting} {store after : Store} {item location : RecordID}

/-! ### The location of an item -/

/-- The location edges of an item. -/
def ownEdges (service : CatalogItemWriting) (store : Store) (item : RecordID) :
    Finset (RecordID × RecordID × RecordID) :=
  (Store.edges store).filter fun edge =>
    edge.1.table_name = service.location_relation ∧ edge.2.1 = item

theorem card_ownEdges :
    (ownEdges service store item).card = (service.currentLocations store item).length := by
  have hselect : ∀ edge ∈ store.select fun id stored =>
      id.table_name == service.location_relation && stored.startsAt item,
      (edge.2.endpoints.map fun ends => canonicalRecordId ends.2).isSome = true := by
    rintro ⟨id, endpoints, content⟩ hmem
    have hstarts := (AList.mem_select.mp hmem).2
    rcases endpoints with _ | ends
    · simp [StoredRecord.startsAt] at hstarts
    · rfl
  rw [currentLocations, List.length_insertionSort, List.length_filterMap_eq_countP,
    List.countP_eq_length.mpr hselect, ownEdges]
  refine Store.card_edges_filter (fun id ends content => ?_) fun id content => ?_
  · simp [StoredRecord.startsAt]
  · simp [StoredRecord.startsAt]

theorem mem_currentLocations {edge target : RecordID} {content : Fields}
    (h : LocatedAt service.toItemWritingService store item edge target content) :
    canonicalRecordId target ∈ service.currentLocations store item := by
  rw [currentLocations, List.mem_insertionSort, List.mem_filterMap]
  refine ⟨(edge, ⟨some (item, target), content⟩), AList.mem_select.mpr ⟨h.lookup, ?_⟩, rfl⟩
  simp [StoredRecord.startsAt, h.of_relation]

/-- One location edge is one location. -/
theorem currentLocations_eq_singleton {edge : RecordID} {content : Fields}
    (h : ∀ edge' target content', LocatedAt service.toItemWritingService store item edge' target content' ↔
      edge' = edge ∧ target = location ∧ content' = content) :
    service.currentLocations store item = [canonicalRecordId location] := by
  have hselect : (store.select fun id stored =>
      id.table_name == service.location_relation && stored.startsAt item).Perm
        [(edge, ⟨some (item, location), content⟩)] := by
    refine (List.perm_ext_iff_of_nodup ?_ (List.nodup_singleton _)).mpr ?_
    · exact (AList.nodup_select _ store).of_map _
    · rintro ⟨id, endpoints, content'⟩
      rw [AList.mem_select, List.mem_singleton]
      constructor
      · rintro ⟨hlookup, hstarts⟩
        rcases endpoints with _ | ⟨source, target⟩
        · simp [StoredRecord.startsAt] at hstarts
        · simp only [StoredRecord.startsAt, Bool.and_eq_true, beq_iff_eq] at hstarts
          obtain ⟨hrelation, rfl⟩ := hstarts
          obtain ⟨rfl, rfl, rfl⟩ := (h id target content').mp ⟨hrelation, hlookup⟩
          rfl
      · intro heq
        cases heq
        obtain ⟨hrelation, hlookup⟩ := (h edge location content).mpr ⟨rfl, rfl, rfl⟩
        exact ⟨hlookup, by simp [StoredRecord.startsAt, hrelation]⟩
  rw [currentLocations, List.perm_singleton.mp hselect]
  rfl

/-- The item's location edges have given way to a new one. -/
def Relocated (service : CatalogItemWriting) (store after : Store) (item location : RecordID) : Prop :=
  ∀ id stored, after.lookup id = some stored ↔
    (id = service.locationEdgeId item location ∧
        stored = ⟨some (item, location), service.engine.keep []⟩) ∨
      id ≠ service.locationEdgeId item location ∧ store.lookup id = some stored ∧
        ¬(id.table_name = service.location_relation ∧ stored.startsAt item = true)

/-- The edges of other items under the key of the new edge. -/
def holders (service : CatalogItemWriting) (store : Store) (item location : RecordID) :
    Finset (RecordID × RecordID × RecordID) :=
  (Store.edges store).filter fun edge =>
    edge.1 = service.locationEdgeId item location ∧ edge.2.1 ≠ item

theorem relocated_relate (item location : RecordID) :
    Relocated service store (Surreal.relate service.engine.keep
      (store.deleteWhere fun id stored =>
        id.table_name == service.location_relation && stored.startsAt item)
      (service.locationEdgeId item location) item location []) item location := by
  intro id stored
  rw [Surreal.relate]
  by_cases hid : id = service.locationEdgeId item location
  · subst hid
    rw [AList.lookup_insert, Option.some.injEq]
    simp only [ne_eq, not_true_eq_false, false_and, or_false, true_and]
    exact eq_comm
  · rw [AList.lookup_insert_ne hid, AList.lookup_deleteWhere_eq_some]
    simp [hid]

/-- An item without a location only gets one. -/
theorem relocated_relate_unlocated
    (h : ∀ edge target content,
      ¬LocatedAt service.toItemWritingService store item edge target content) :
    Relocated service store (Surreal.relate service.engine.keep store
      (service.locationEdgeId item location) item location []) item location := by
  intro id stored
  rw [Surreal.relate]
  by_cases hid : id = service.locationEdgeId item location
  · subst hid
    rw [AList.lookup_insert, Option.some.injEq]
    simp only [ne_eq, not_true_eq_false, false_and, or_false, true_and]
    exact eq_comm
  · rw [AList.lookup_insert_ne hid]
    refine ⟨fun hlookup => .inr ⟨hid, hlookup, ?_⟩, fun hlookup => ?_⟩
    · rintro ⟨hrelation, hstarts⟩
      obtain ⟨endpoints, content⟩ := stored
      rcases endpoints with _ | ⟨source, target⟩
      · simp [StoredRecord.startsAt] at hstarts
      · obtain rfl : source = item := by simpa [StoredRecord.startsAt] using hstarts
        exact h id target content ⟨hrelation, hlookup⟩
    · rcases hlookup with ⟨hkey, -⟩ | ⟨-, hlookup, -⟩
      · exact absurd hkey hid
      · exact hlookup

theorem Relocated.mem_edges (h : Relocated service store after item location)
    {id source target : RecordID} :
    (id, source, target) ∈ Store.edges after ↔
      (id = service.locationEdgeId item location ∧ source = item ∧ target = location) ∨
        id ≠ service.locationEdgeId item location ∧ (id, source, target) ∈ Store.edges store ∧
          ¬(id.table_name = service.location_relation ∧ source = item) := by
  have hstarts : ∀ content, (⟨some (source, target), content⟩ : StoredRecord).startsAt item = true ↔
      source = item := fun content => by simp [StoredRecord.startsAt]
  simp only [Store.mem_edges, h id, hstarts, StoredRecord.mk.injEq, Option.some.injEq,
    Prod.mk.injEq]
  constructor
  · rintro ⟨content, ⟨hid, ⟨hsource, htarget⟩, -⟩ | ⟨hid, hlookup, hother⟩⟩
    · exact .inl ⟨hid, hsource, htarget⟩
    · exact .inr ⟨hid, ⟨content, hlookup⟩, hother⟩
  · rintro (⟨hid, hsource, htarget⟩ | ⟨hid, ⟨content, hlookup⟩, hother⟩)
    · exact ⟨_, .inl ⟨hid, ⟨hsource, htarget⟩, rfl⟩⟩
    · exact ⟨content, .inr ⟨hid, hlookup, hother⟩⟩

/-- **What a relocation changes.**  The item's edges go, the new one comes, and an edge
under its key goes too. -/
theorem Relocated.card_changedEdges (h : Relocated service store after item location)
    (hfresh : (service.locationEdgeId item location, item, location) ∉ Store.edges store) :
    (Store.changedEdges store after).card =
      (ownEdges service store item).card + 1 + (holders service store item location).card := by
  have hchanged : Store.changedEdges store after =
      insert (service.locationEdgeId item location, item, location)
        (ownEdges service store item ∪ holders service store item location) := by
    ext ⟨id, source, target⟩
    simp only [Store.changedEdges, Finset.mem_symmDiff, h.mem_edges, Finset.mem_insert,
      Finset.mem_union, ownEdges, holders, Finset.mem_filter, Prod.mk.injEq]
    have htable : (service.locationEdgeId item location).table_name = service.location_relation := rfl
    by_cases hid : id = service.locationEdgeId item location
    · subst hid
      by_cases hsource : source = item
      · subst hsource
        by_cases htarget : target = location
        · subst htarget
          simp [hfresh]
        · simp [htarget, htable]
      · simp [hsource]
    · simp only [hid, false_and, false_or, not_false_eq_true, true_and, ne_eq]
      tauto
  have hdisjoint : Disjoint (ownEdges service store item) (holders service store item location) := by
    rw [Finset.disjoint_left]
    rintro ⟨id, source, target⟩ hown hholder
    exact (Finset.mem_filter.mp hholder).2.2 (Finset.mem_filter.mp hown).2.2
  rw [hchanged, Finset.card_insert_of_notMem, Finset.card_union_of_disjoint hdisjoint]
  · omega
  · rw [Finset.mem_union, ownEdges, holders, Finset.mem_filter, Finset.mem_filter]
    exact fun hmem => hfresh (hmem.elim And.left And.left)

/-- The only node that a relocation can change is one under the new key. -/
theorem Relocated.mem_changedNodes (h : Relocated service store after item location)
    {id : RecordID} : id ∈ Store.changedNodes store after ↔
      id = service.locationEdgeId item location ∧ id ∈ Store.nodes store := by
  have hkey : after.lookup (service.locationEdgeId item location) =
      some ⟨some (item, location), service.engine.keep []⟩ := (h _ _).mpr (.inl ⟨rfl, rfl⟩)
  rw [Store.mem_changedNodes, Store.mem_nodes]
  constructor
  · rintro ⟨hnode, hdiffers⟩
    by_cases hid : id = service.locationEdgeId item location
    · subst hid
      refine ⟨rfl, hnode.resolve_right ?_⟩
      rintro ⟨content, hlookup⟩
      rw [hkey] at hlookup
      cases hlookup
    · have hkept : ∀ content, store.lookup id = some ⟨none, content⟩ →
          after.lookup id = some ⟨none, content⟩ := fun content hlookup =>
        (h id _).mpr (.inr ⟨hid, hlookup, by simp [StoredRecord.startsAt]⟩)
      rcases hnode with ⟨content, hlookup⟩ | ⟨content, hlookup⟩
      · exact absurd (hlookup.trans (hkept content hlookup).symm) hdiffers
      · rcases (h id _).mp hlookup with ⟨hkey', -⟩ | ⟨-, hbefore, -⟩
        · exact absurd hkey' hid
        · exact absurd (hbefore.trans hlookup.symm) hdiffers
  · rintro ⟨rfl, content, hlookup⟩
    refine ⟨.inl ⟨content, hlookup⟩, ?_⟩
    rw [hlookup, hkey]
    simp

/-- A free key is held by no node and by no edge of another item. -/
theorem free_iff : (∀ stored, store.lookup (service.locationEdgeId item location) = some stored →
      stored.startsAt item = true) ↔
    service.locationEdgeId item location ∉ Store.nodes store ∧
      (holders service store item location).card = 0 := by
  rw [Finset.card_eq_zero, Finset.eq_empty_iff_forall_notMem, Store.mem_nodes]
  constructor
  · intro h
    refine ⟨fun ⟨content, hlookup⟩ => ?_, ?_⟩
    · have := h _ hlookup
      simp [StoredRecord.startsAt] at this
    · rintro ⟨id, source, target⟩ hmem
      obtain ⟨hedge, rfl, hsource⟩ := Finset.mem_filter.mp hmem
      obtain ⟨content, hlookup⟩ := Store.mem_edges.mp hedge
      have := h _ hlookup
      exact hsource (by simpa [StoredRecord.startsAt] using this)
  · rintro ⟨hnode, hholder⟩ ⟨endpoints, content⟩ hlookup
    rcases endpoints with _ | ⟨source, target⟩
    · exact absurd ⟨content, hlookup⟩ hnode
    · by_contra hstarts
      refine hholder ⟨_, source, target⟩ (Finset.mem_filter.mpr ⟨Store.mem_edges.mpr ⟨_, hlookup⟩,
        rfl, fun hsource => hstarts ?_⟩)
      simpa [StoredRecord.startsAt] using hsource

/-! ### The reports of the four requests -/

variable {request : WriteRequest} {faults : Faults} {plan : Plan}

theorem locationEdgeId_ne_item (item : ItemId) (location : RecordID) :
    service.locationEdgeId item.id location ≠ item.id := by
  intro heq
  have htable := congrArg RecordID.table_name heq
  rw [locationEdgeId_table, item.is_item] at htable
  exact absurd htable (by decide)

/-- The location that a request puts its item at is its only one. -/
theorem currentLocations_of_effect
    (h : Effect service.toItemWritingService store request after) {place : PlaceId}
    (hplace : request.location? = some place) :
    service.currentLocations after request.item.id = [canonicalRecordId place.id] :=
  currentLocations_eq_singleton fun _ _ _ => located_of_effect h hplace

/-- A move is reported truly iff its key is free. -/
theorem reported_updateLocation {item : ItemId} {place : PlaceId} {mode : WriteMode}
    (hplan : service.plan faults store (.updateLocation item place mode) = .ok (.inr plan))
    (heffect : Effect service.toItemWritingService store (.updateLocation item place .commit) after) :
    Reported service.toItemWritingService (.updateLocation item place mode) plan.report store after ↔
      Faithful service store (.updateLocation item place mode) := by
  obtain ⟨refused, hrefused, h⟩ := bind_eq_ok.mp hplan
  rcases updateLocationRefusal_cases hrefused with ⟨result, rfl, -⟩ | ⟨rfl, hlength, hother⟩
  · cases pure_eq_ok.mp h
  obtain rfl := Sum.inr.inj (pure_eq_ok.mp h)
  have hrelocated : Relocated service store after item.id place.id := by
    cases heffect with
    | placed _ _ _ hunlocated => exact relocated_relate_unlocated hunlocated
    | moved => exact relocated_relate _ _
  have hfresh : (service.locationEdgeId item.id place.id, item.id, place.id) ∉ Store.edges store := by
    intro hmem
    obtain ⟨content, hlookup⟩ := Store.mem_edges.mp hmem
    have hcurrent := @mem_currentLocations service store item.id _ _ _ ⟨rfl, hlookup⟩
    match hlocations : service.currentLocations store item.id with
    | [] => rw [hlocations] at hcurrent; exact absurd hcurrent List.not_mem_nil
    | [current] =>
        rw [hlocations, List.mem_singleton] at hcurrent
        exact hother (by rw [hlocations, hcurrent]; rfl)
    | _ :: _ :: _ => rw [hlocations] at hlength; simp at hlength
  have hedges := hrelocated.card_changedEdges hfresh
  have hreport : (updateLocationReport item.id place.id
      (service.currentLocations store item.id).head?).affected_edges =
        (ownEdges service store item.id).card + 1 := by
    rw [card_ownEdges]
    match service.currentLocations store item.id, hlength with
    | [], _ => rfl
    | [_], _ => rfl
  constructor
  · rintro ⟨-, hnodes, hcard⟩
    refine free_iff.mpr ⟨fun hnode => ?_, ?_⟩
    · have hempty := Finset.card_eq_zero.mp hnodes.symm
      exact Finset.eq_empty_iff_forall_notMem.mp hempty _ (hrelocated.mem_changedNodes.mpr ⟨rfl, hnode⟩)
    · rw [hreport] at hcard
      omega
  · intro hfree
    obtain ⟨hnode, hholders⟩ := free_iff.mp hfree
    refine ⟨⟨_, rfl, currentLocations_of_effect heffect rfl⟩, ?_, ?_⟩
    · refine (Finset.card_eq_zero.mpr (Finset.eq_empty_iff_forall_notMem.mpr fun id hid => ?_)).symm
      obtain ⟨rfl, hid⟩ := hrelocated.mem_changedNodes.mp hid
      exact hnode hid
    · rw [hreport, hedges]
      omega

/-! #### Creations -/

/-- The store with the created item but not yet its location. -/
def withItem (service : CatalogItemWriting) (store : Store) (item : ItemId)
    (properties : ItemProperties) : Store :=
  Surreal.upsert service.engine.keep store item.id (createdProperties properties)

variable {item : ItemId} {properties : ItemProperties} {place : PlaceId} {mode : WriteMode}

theorem lookup_withItem : (withItem service store item properties).lookup item.id =
    some ⟨none, service.engine.keep (createdProperties properties)⟩ := by
  rw [withItem, Surreal.upsert, AList.lookup_insert]

theorem lookup_withItem_ne {id : RecordID} (h : id ≠ item.id) :
    (withItem service store item properties).lookup id = store.lookup id := by
  rw [withItem, Surreal.upsert, AList.lookup_insert_ne h]

theorem edges_withItem (h : store.lookup item.id = none) :
    Store.edges (withItem service store item properties) = Store.edges store := by
  ext ⟨id, source, target⟩
  rw [Store.mem_edges, Store.mem_edges]
  by_cases hid : id = item.id
  · subst hid
    rw [lookup_withItem, h]
    simp
  · rw [lookup_withItem_ne hid]

/-- The nodes that a creation changes: the item, and a node under the key of its edge. -/
theorem mem_changedNodes_create (hmissing : store.lookup item.id = none)
    (hrelocated : Relocated service (withItem service store item properties) after item.id place.id)
    {id : RecordID} : id ∈ Store.changedNodes store after ↔
      id = item.id ∨ id = service.locationEdgeId item.id place.id ∧ id ∈ Store.nodes store := by
  by_cases hid : id = item.id
  · subst hid
    have hafter : after.lookup item.id =
        some ⟨none, service.engine.keep (createdProperties properties)⟩ :=
      (hrelocated _ _).mpr (.inr ⟨(locationEdgeId_ne_item item place.id).symm, lookup_withItem, by
        simp [StoredRecord.startsAt]⟩)
    simp [Store.mem_changedNodes, hmissing, hafter]
  · have hsame := @lookup_withItem_ne service store item properties id hid
    rw [Store.mem_changedNodes, ← hsame, ← Store.mem_changedNodes, hrelocated.mem_changedNodes,
      Store.mem_nodes, Store.mem_nodes, hsame]
    simp [hid]

/-- A creation is reported truly iff the key of its edge is free. -/
theorem reported_create
    (hplan : service.plan faults store (.create item properties place mode) = .ok (.inr plan))
    (heffect : Effect service.toItemWritingService store (.create item properties place .commit) after) :
    Reported service.toItemWritingService (.create item properties place mode) plan.report store after ↔
      Faithful service store (.create item properties place mode) := by
  obtain ⟨refused, hrefused, h⟩ := bind_eq_ok.mp hplan
  cases refused with
  | some result => cases pure_eq_ok.mp h
  | none =>
  obtain rfl := Sum.inr.inj (pure_eq_ok.mp h)
  have hmissing := (createRefusal_ok_none hrefused).2.1
  have hunlocated : ∀ edge target content, ¬LocatedAt service.toItemWritingService
      (withItem service store item properties) item.id edge target content := by
    intro edge target content hlocated
    have hne : edge ≠ item.id := by
      rintro rfl
      have htable := hlocated.of_relation
      rw [location_relation_eq, item.is_item] at htable
      exact absurd htable (by decide)
    exact currentLocations_eq_nil.mp (createRefusal_ok_none hrefused).2.2.1 edge target content
      ⟨hlocated.of_relation, (lookup_withItem_ne hne).symm.trans hlocated.lookup⟩
  have hrelocated : Relocated service (withItem service store item properties) after item.id place.id := by
    cases heffect with
    | created => exact relocated_relate_unlocated hunlocated
  have hfresh : (service.locationEdgeId item.id place.id, item.id, place.id) ∉
      Store.edges (withItem service store item properties) := fun hmem => by
    obtain ⟨content, hlookup⟩ := Store.mem_edges.mp hmem
    exact hunlocated _ _ _ ⟨rfl, hlookup⟩
  have hown : (ownEdges service (withItem service store item properties) item.id).card = 0 := by
    rw [card_ownEdges, currentLocations_eq_nil.mpr hunlocated]
    rfl
  have hedges : (Store.changedEdges store after).card =
      1 + (holders service store item.id place.id).card := by
    have hcard := hrelocated.card_changedEdges hfresh
    rw [hown, Nat.zero_add, holders, Store.changedEdges, edges_withItem hmissing] at hcard
    exact hcard
  have hnodes := @mem_changedNodes_create service store after item properties place hmissing hrelocated
  constructor
  · rintro ⟨-, hcard, hcardEdges⟩
    refine free_iff.mpr ⟨fun hnode => ?_, ?_⟩
    · have hone : (Store.changedNodes store after).card = 1 := hcard.symm
      have heq := Finset.card_le_one.mp hone.le _ (hnodes.mpr (.inl rfl)) _
        (hnodes.mpr (.inr ⟨rfl, hnode⟩))
      exact locationEdgeId_ne_item item place.id heq.symm
    · have hone : (Store.changedEdges store after).card = 1 := hcardEdges.symm
      omega
  · intro hfree
    obtain ⟨hnode, hholders⟩ := free_iff.mp hfree
    have hstored : after.lookup item.id =
        some ⟨none, service.engine.keep (createdProperties properties)⟩ :=
      (hrelocated _ _).mpr (.inr ⟨(locationEdgeId_ne_item item place.id).symm, lookup_withItem, by
        simp [StoredRecord.startsAt]⟩)
    refine ⟨⟨_, _, _, rfl, hstored, fun key => ?_, currentLocations_of_effect heffect rfl⟩, ?_, ?_⟩
    · have hkept := service.documented.keep_getD (createdProperties properties)
        (Fields.nodup_merge (by simp) _) key
      rw [Fields.getD, Fields.getD, Surreal.row, Fields.get?_cons, Fields.get?_cons]
      split
      case isTrue => rfl
      case isFalse => exact hkept
    · have hsingle : Store.changedNodes store after = {item.id} := by
        ext id
        rw [hnodes, Finset.mem_singleton]
        refine ⟨fun hid => hid.resolve_right ?_, .inl⟩
        rintro ⟨rfl, hid⟩
        exact hnode hid
      rw [hsingle]
      rfl
    · rw [hedges, hholders]
      rfl

/-! #### Attribute updates -/

/-- What a declared kind lets through is a scalar. -/
theorem isScalar_of_matchesKind {value : Json} {kind : ValueKind}
    (hkind : kind ∈ [ValueKind.string, .number, .integer, .boolean, .date])
    (h : matchesKind value kind = .ok true) : value.isScalar = true := by
  simp only [List.mem_cons, List.not_mem_nil, or_false] at hkind
  rcases hkind with rfl | rfl | rfl | rfl | rfl <;> cases value <;>
    simp_all [matchesKind, Json.isStr, Json.isBool, Json.isScalar, isFiniteNumber]

/-- Properties without an error match their kinds. -/
theorem matchesKind_of_propertyError {schema : EntityTypeSchema} {attributes : Fields}
    (h : propertyError schema attributes = .ok none) :
    ∀ field ∈ attributes, matchesKind field.2 (schema.kindOf field.1) = .ok true := by
  induction attributes with
  | nil => exact fun field hfield => absurd hfield List.not_mem_nil
  | cons field attributes ih =>
      obtain ⟨name, value⟩ := field
      rw [propertyError.eq_def] at h
      simp only at h
      generalize (name == "item_type" && _) = blank at h
      cases blank with
      | true => cases pure_eq_ok.mp h
      | false =>
          obtain ⟨matched, hmatched, h⟩ := bind_eq_ok.mp h
          cases matched with
          | false => cases pure_eq_ok.mp h
          | true => exact List.forall_mem_cons.mpr ⟨hmatched, ih h⟩

/-- Validated attributes are scalars. -/
theorem isScalar_of_valid {attributes : Fields}
    (hwritable : attributes.extra service.writable = [])
    (hvalid : service.validateItemProperties attributes false = .ok none) :
    ∀ field ∈ attributes, field.1 ∈ service.writable ∧ field.2.isScalar = true := by
  intro field hfield
  have hname : field.1 ∈ service.writable := by
    by_contra hnot
    have hextra : field.1 ∈ attributes.extra service.writable := by
      rw [Fields.extra, List.mem_insertionSort, List.mem_filter]
      exact ⟨List.mem_map_of_mem hfield, by simpa using hnot⟩
    rw [hwritable] at hextra
    exact absurd hextra List.not_mem_nil
  refine ⟨hname, ?_⟩
  rw [validateItemProperties] at hvalid
  split at hvalid
  case h_1 => cases pure_eq_ok.mp hvalid
  case h_2 schema hschema =>
    split at hvalid
    case isTrue => cases pure_eq_ok.mp hvalid
    case isFalse =>
      obtain ⟨found, hfound, h⟩ := bind_eq_ok.mp hvalid
      cases found with
      | some error => cases pure_eq_ok.mp h
      | none =>
          exact isScalar_of_matchesKind (service.scalar_kinds schema hschema _ hname)
            (matchesKind_of_propertyError hfound field hfield)

/-- A row has the content's fields, but for those of its identity. -/
theorem row_getD {id : RecordID} {stored : StoredRecord} {key : String}
    (hkey : key ∉ ["id", "in", "out"]) : (Surreal.row id stored).getD key = stored.content.getD key := by
  simp only [List.mem_cons, List.not_mem_nil, or_false, not_or] at hkey
  obtain ⟨hid, hin, hout⟩ := hkey
  obtain ⟨endpoints, content⟩ := stored
  rcases endpoints with _ | ⟨source, target⟩
  · simp [Surreal.row, Fields.getD, Fields.get?_cons, Ne.symm hid]
  · simp [Surreal.row, Fields.getD, Fields.get?_cons, Ne.symm hid, Ne.symm hin, Ne.symm hout]

/-- A `dict` of scalars is equal to itself. -/
theorem pyEq_fields_self {attributes : Fields} (hnodup : (attributes.map Prod.fst).Nodup)
    (hscalar : ∀ field ∈ attributes, field.2.isScalar = true) :
    Json.pyEq (.obj attributes) (.obj attributes) = true := by
  have hfields : ∀ fields : Fields, (∀ field ∈ fields, field ∈ attributes) →
      Json.pyEqFields fields attributes = true := by
    intro fields hmem
    induction fields with
    | nil => rw [Json.pyEqFields]
    | cons field fields ih =>
        have hfield := hmem field List.mem_cons_self
        rw [Json.pyEqFields, AList.lookup_eq_some_of_mem hnodup hfield,
          ih fun other hother => hmem other (List.mem_cons_of_mem _ hother)]
        simpa using Json.pyEq_self (hscalar field hfield)
  rw [Json.pyEq, hfields attributes fun _ hmem => hmem]
  simp

/-- An attribute update is reported truly iff the item is a node. -/
theorem reported_updateAttributes {attributes : Fields}
    (hnodup : (attributes.map Prod.fst).Nodup)
    (hplan : service.plan faults store (.updateAttributes item attributes mode) = .ok (.inr plan))
    (heffect : Effect service.toItemWritingService store (.updateAttributes item attributes .commit)
      after) :
    Reported service.toItemWritingService (.updateAttributes item attributes mode) plan.report store
        after ↔ Faithful service store (.updateAttributes item attributes mode) := by
  obtain ⟨refused, hrefused, h⟩ := bind_eq_ok.mp hplan
  rcases updateAttributesRefusal_cases hrefused with ⟨result, rfl, -⟩ | ⟨stored, rfl, hstored, hdiffers⟩
  · cases pure_eq_ok.mp h
  obtain rfl := Sum.inr.inj (pure_eq_ok.mp h)
  cases heffect with
  | attributes _ _ other hpresent hwritable hvalid =>
  obtain rfl := Option.some.inj (hstored.symm.trans hpresent)
  have hfields := isScalar_of_valid hwritable hvalid
  have hscalar := fun field hfield => (hfields field hfield).2
  have hkeys : ∀ field ∈ attributes, field.1 ∉ ["id", "in", "out"] := fun field hfield hkey =>
    service.no_identity _ hkey (hfields field hfield).1
  have hmerged : ∀ field ∈ attributes,
      (service.engine.merge stored.content attributes).getD field.1 = field.2 := by
    intro field hfield
    rw [service.documented.merge_getD _ _ hnodup hscalar, Fields.get?,
      AList.lookup_eq_some_of_mem hnodup hfield]
    rfl
  -- Were the content unchanged, the previous values would be the given ones.
  have hchanged : service.engine.merge stored.content attributes ≠ stored.content := by
    intro hsame
    rw [hsame] at hmerged
    have hprevious : previousProperties item.id stored attributes = attributes := by
      refine (List.map_congr_left fun field hfield => ?_).trans (List.map_id _)
      rw [row_getD (hkeys field hfield), hmerged field hfield]
      rfl
    rw [hprevious, pyEq_fields_self hnodup hscalar] at hdiffers
    cases hdiffers
  have hnodes : ∀ id, id ∈ Store.changedNodes store (store.insert item.id
      ⟨stored.endpoints, service.engine.merge stored.content attributes⟩) ↔
        id = item.id ∧ stored.endpoints = none := by
    intro id
    rw [Store.mem_changedNodes]
    by_cases hid : id = item.id
    · subst hid
      obtain ⟨endpoints, content⟩ := stored
      rw [AList.lookup_insert, hstored]
      simp [Ne.symm hchanged]
    · rw [AList.lookup_insert_ne hid]
      simp [hid]
  constructor
  · rintro ⟨-, hcard, -⟩
    have hone : (Store.changedNodes store _).card = 1 := hcard.symm
    obtain ⟨id, hid⟩ := Finset.card_eq_one.mp hone
    have hnode := ((hnodes id).mp (hid ▸ Finset.mem_singleton_self id)).2
    exact fun other hother => by rwa [← Option.some.inj (hstored.symm.trans hother)]
  · intro hnode
    have hnone := hnode stored hstored
    refine ⟨⟨attributes, _, rfl, AList.lookup_insert _, fun key hkey => ?_⟩, ?_, ?_⟩
    · obtain ⟨field, hfield, rfl⟩ := List.mem_map.mp hkey
      rw [row_getD (hkeys field hfield), hmerged field hfield, Fields.getD, Fields.get?,
        AList.lookup_eq_some_of_mem hnodup hfield]
      rfl
    · refine (Finset.card_eq_one.mpr ⟨item.id, ?_⟩).symm
      ext id
      rw [hnodes, Finset.mem_singleton]
      exact ⟨And.left, fun hid => ⟨hid, hnone⟩⟩
    · refine (Finset.card_eq_zero.mpr ?_).symm
      rw [Store.changedEdges, Finset.bot_eq_empty.symm, symmDiff_eq_bot]
      ext ⟨id, source, target⟩
      rw [Store.mem_edges, Store.mem_edges]
      by_cases hid : id = item.id
      · subst hid
        rw [AList.lookup_insert, hstored]
        obtain ⟨endpoints, content⟩ := stored
        obtain rfl : endpoints = none := hnone
        simp
      · rw [AList.lookup_insert_ne hid]

/-! #### Deletions -/

/-- The edges that a deletion deletes. -/
def incident (service : CatalogItemWriting) (store : Store) (item : RecordID) :
    Finset (RecordID × RecordID × RecordID) :=
  (Store.edges store).filter fun edge =>
    edge.1.table_name ∈ service.itemRelations ∧ (edge.2.1 = item ∨ edge.2.2 = item)

theorem sum_filter_ne_zero (entries : List (String × Nat)) :
    ((entries.filter fun entry => entry.2 != 0).map Prod.snd).sum = (entries.map Prod.snd).sum := by
  induction entries with
  | nil => rfl
  | cons entry entries ih =>
      by_cases hzero : entry.2 = 0 <;> simp [hzero, ih]

/-- The reported numbers add up to the incident edges. -/
theorem sum_incidentEdges (item : RecordID) :
    ((service.incidentEdges store item).map Prod.snd).sum = (incident service store item).card := by
  have hnodup : service.itemRelations.Nodup :=
    EdgeSchemaRegistry.nodup_relationship_names.filter _
  have hcount : ∀ relation ∈ service.itemRelations.toFinset,
      ((incident service store item).filter fun edge => edge.1.table_name = relation).card =
        (store.select fun id stored => id.table_name == relation && stored.mentions item).length := by
    intro relation hrelation
    rw [incident, Finset.filter_filter]
    refine Store.card_edges_filter (fun id ends content => ?_) fun id content => ?_
    · simp only [StoredRecord.mentions, Bool.and_eq_true, beq_iff_eq, Bool.or_eq_true]
      constructor
      · rintro ⟨rfl, hmentions⟩
        exact ⟨⟨List.mem_toFinset.mp hrelation, hmentions⟩, rfl⟩
      · rintro ⟨⟨-, hmentions⟩, rfl⟩
        exact ⟨rfl, hmentions⟩
    · simp [StoredRecord.mentions]
  rw [incidentEdges, sum_filter_ne_zero, List.map_map,
    Finset.card_eq_sum_card_fiberwise (f := fun edge => edge.1.table_name)
      (t := service.itemRelations.toFinset) fun edge hedge =>
        List.mem_toFinset.mpr (Finset.mem_filter.mp hedge).2.1,
    Finset.sum_congr rfl hcount, List.sum_toFinset _ hnodup]
  rfl

/-- A deletion is reported truly iff the item is a node and its edges are of relations that
admit items. -/
theorem reported_delete
    (hplan : service.plan faults store (.delete item mode) = .ok (.inr plan))
    (heffect : Effect service.toItemWritingService store (.delete item .commit) after) :
    Reported service.toItemWritingService (.delete item mode) plan.report store after ↔
      Faithful service store (.delete item mode) := by
  obtain ⟨existing, hexisting, h⟩ := bind_eq_ok.mp hplan
  obtain ⟨-, rfl⟩ := read_eq_ok.mp hexisting
  obtain ⟨stored, hstored⟩ : ∃ stored, store.lookup item.id = some stored := by
    cases heffect with
    | deleted _ hpresent => exact Option.isSome_iff_exists.mp hpresent
  rw [hstored] at h
  obtain ⟨counts, hcounts, h⟩ := bind_eq_ok.mp h
  obtain ⟨-, rfl⟩ := read_eq_ok.mp hcounts
  obtain rfl := Sum.inr.inj (pure_eq_ok.mp h)
  have hafter : ∀ id other, after.lookup id = some other ↔ id ≠ item.id ∧
      store.lookup id = some other ∧
        (id.table_name ∈ service.itemRelations → other.mentions item.id = false) := by
    cases heffect with
    | deleted => exact fun id other => lookup_deleted
  have hgone : after.lookup item.id = none := by
    rw [Option.eq_none_iff_forall_ne_some]
    exact fun other hother => ((hafter _ _).mp hother).1 rfl
  have hnodes : ∀ id, id ∈ Store.changedNodes store after ↔
      id = item.id ∧ stored.endpoints = none := by
    intro id
    rw [Store.mem_changedNodes]
    by_cases hid : id = item.id
    · subst hid
      obtain ⟨endpoints, content⟩ := stored
      simp [hgone, hstored]
    · have hkept : ∀ content, store.lookup id = some ⟨none, content⟩ →
          after.lookup id = some ⟨none, content⟩ := fun content hlookup =>
        (hafter _ _).mpr ⟨hid, hlookup, fun _ => rfl⟩
      simp only [hid, false_and, iff_false, not_and, not_not]
      rintro (⟨content, hlookup⟩ | ⟨content, hlookup⟩)
      · rw [hlookup, hkept content hlookup]
      · rw [hlookup, ((hafter _ _).mp hlookup).2.1]
  -- A record that mentions the item has endpoints, so it is not the node itself.
  have hother : stored.endpoints = none → ∀ id record, store.lookup id = some record →
      record.mentions item.id = true → id ≠ item.id := by
    rintro hnone id record hlookup hmentions rfl
    obtain rfl := Option.some.inj (hstored.symm.trans hlookup)
    simp [StoredRecord.mentions, hnone] at hmentions
  constructor
  · rintro ⟨⟨-, -, hmentions⟩, hcard, -⟩
    have hone : (Store.changedNodes store after).card = 1 := hcard.symm
    obtain ⟨id, hid⟩ := Finset.card_eq_one.mp hone
    have hnone := ((hnodes id).mp (hid ▸ Finset.mem_singleton_self id)).2
    refine ⟨fun record hrecord => ?_, fun id record hlookup hmention => ?_⟩
    · rwa [← Option.some.inj (hstored.symm.trans hrecord)]
    · by_contra hrelation
      have hkept := (hafter id record).mpr
        ⟨hother hnone id record hlookup hmention, hlookup, fun h => absurd h hrelation⟩
      rw [hmentions id record hkept] at hmention
      cases hmention
  · rintro ⟨hnode, hrelations⟩
    have hnone := hnode stored hstored
    have hedges : Store.changedEdges store after = incident service store item.id := by
      ext ⟨id, source, target⟩
      have hmention : ∀ content, (⟨some (source, target), content⟩ : StoredRecord).mentions item.id
          = true ↔ source = item.id ∨ target = item.id := by
        intro content
        simp [StoredRecord.mentions]
      simp only [Store.changedEdges, Finset.mem_symmDiff, Store.mem_edges, hafter, incident,
        Finset.mem_filter, ← hmention []]
      constructor
      · rintro (⟨⟨content, hlookup⟩, hnot⟩ | ⟨⟨content, -, hlookup, -⟩, hnot⟩)
        · by_cases hid : id = item.id
          · subst hid
            obtain rfl := Option.some.inj (hstored.symm.trans hlookup)
            cases hnone
          · by_contra hincident
            refine hnot ⟨content, hid, hlookup, fun hrelation => ?_⟩
            rw [← Bool.not_eq_true]
            exact fun hmentions => hincident ⟨⟨content, hlookup⟩, hrelation, hmentions⟩
        · exact absurd ⟨content, hlookup⟩ hnot
      · rintro ⟨⟨content, hlookup⟩, hrelation, hmentions⟩
        refine .inl ⟨⟨content, hlookup⟩, ?_⟩
        rintro ⟨other, -, -, hkept⟩
        have hfalse := hkept hrelation
        rw [show (⟨some (source, target), other⟩ : StoredRecord).mentions item.id = true
          from hmentions] at hfalse
        cases hfalse
    refine ⟨⟨rfl, hgone, fun id record hlookup => ?_⟩, ?_, ?_⟩
    · obtain ⟨-, hbefore, hkept⟩ := (hafter id record).mp hlookup
      rw [← Bool.not_eq_true]
      intro hmention
      have hfalse := hkept (hrelations id record hbefore hmention)
      rw [hmention] at hfalse
      cases hfalse
    · refine (Finset.card_eq_one.mpr ⟨item.id, ?_⟩).symm
      ext id
      rw [hnodes, Finset.mem_singleton]
      exact ⟨And.left, fun hid => ⟨hid, hnone⟩⟩
    · rw [hedges, ← sum_incidentEdges]
      rfl

/-! ### When preview and commit agree -/

/-- A database that drops nulls does what SurrealQL says. -/
theorem documented_dropNulls : (⟨dropNulls, Fields.merge⟩ : Engine).Documented where
  keep_getD content hnodup key := by
    change Fields.getD (dropNulls content) key = Fields.getD content key
    induction content with
    | nil => rfl
    | cons field content ih =>
        obtain ⟨name, value⟩ := field
        rw [List.map_cons, List.nodup_cons] at hnodup
        have hrest := ih hnodup.2
        rw [Fields.getD, Fields.getD] at hrest ⊢
        rw [dropNulls, List.filter_cons]
        by_cases hvalue : value = .null
        · have habsent : Fields.get? content name = none :=
            AList.lookup_eq_none_of_not_mem hnodup.1
          by_cases hname : name = key
          · subst hname
            simp only [hvalue, ne_eq, not_true_eq_false, decide_false, Bool.false_eq_true, if_false,
              Fields.get?_cons, if_true]
            rw [← dropNulls, hrest, habsent]
            rfl
          · simpa [hvalue, Fields.get?_cons, hname, dropNulls] using hrest
        · by_cases hname : name = key
          · simp [hvalue, Fields.get?_cons, hname]
          · simpa [hvalue, Fields.get?_cons, hname, dropNulls] using hrest
  merge_getD content changes hnodup _ key := by
    rw [Fields.getD, get?_merge hnodup]
    cases hlookup : changes.lookup key <;> simp [Fields.get?, Fields.getD, hlookup]

/-- The deployed service, with the kinds of the deployed ontology. -/
def deployedCatalog : CatalogItemWriting where
  toHouseholdItemWriting := HouseholdItemWriting.deployed
  documented := documented_dropNulls
  scalar_kinds := by
    rintro _ ⟨⟩
    decide
  no_identity := by decide

end CatalogItemWriting
end HomeCortex
