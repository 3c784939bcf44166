/-
# What one step of a path means

A step of a path denotes a relation on identities, `stepRelation`: it leads from a record to
every stored record at the far end of a current edge that passes the relation filters of the
step, where the far record passes its entity filters.  The edges are those at the record itself
or, for the contents of a collapsed container, also those at the spaces that it hosts, directly
or not (`SourceOf`).  A step that succeeds returns the image of its records under this relation,
each record once (`takeStep_image`): a read that was cut off fails instead.
-/

import Mathlib.Data.Rel
import HomeCortex.Facts.HostedSpaces

namespace HomeCortex

theorem uniqueEntities_subset (entities : List Entity) : uniqueEntities entities ⊆ entities := by
  have hfold : ∀ rest unique : List Entity, rest.foldl (fun unique entity =>
      if (unique.map Entity.id).contains entity.id then unique else unique ++ [entity]) unique
        ⊆ unique ++ rest := by
    intro rest
    induction rest with
    | nil => exact fun unique => by simp
    | cons entity rest ih =>
        intro unique
        rw [List.foldl_cons]
        refine List.Subset.trans (ih _) ?_
        split
        · exact List.append_subset.2 ⟨List.subset_append_left _ _,
            List.Subset.trans (List.subset_cons_self _ _) (List.subset_append_right _ _)⟩
        · rw [List.append_assoc, List.singleton_append]
          exact List.Subset.refl _
  exact hfold entities []

namespace HouseholdFactEngine

variable (engine : HouseholdFactEngine)

/-! ### Records of the graph -/

/-- The fields of a record are those that are stored. -/
def IsView (entity : Entity) : Prop :=
  ∃ record, engine.graph.entity? entity.id = some record ∧
    ∀ key, entity.has key = true → entity.get key = record.get key

/-- A record that a path may start from: it is a view of a stored one, or a bare identity that
may have a display name. -/
def Known (entity : Entity) : Prop :=
  engine.IsView entity ∨ ∀ key, entity.has key = true → key = "id" ∨ key = "display_name"

variable {engine}

theorem entity?_id {id : String} {record : Entity} (h : engine.graph.entity? id = some record) :
    record.id = id := by
  obtain ⟨fields, -, rfl⟩ := Option.map_eq_some_iff.1 h
  rfl

/-- A stored record is a view of itself. -/
theorem isView_of_entity? {id : String} {record : Entity}
    (h : engine.graph.entity? id = some record) : engine.IsView record :=
  ⟨record, by rw [entity?_id h, h], fun _ _ => rfl⟩

/-- The summary of a stored record is a view of it. -/
theorem isView_entitySummary {id : String} {record : Entity}
    (h : engine.graph.entity? id = some record) : engine.IsView (entitySummary record) := by
  refine ⟨record, by rw [← entity?_id h] at h; exact h, fun key hkey => ?_⟩
  unfold Entity.has at hkey
  unfold Entity.get
  split
  case isTrue => rfl
  case isFalse hid =>
    rw [Bool.or_eq_true, beq_iff_eq, or_iff_right hid] at hkey
    have hget := Fields.get?_filter record.fields (fun k => entitySummaryFields.contains k) key
    unfold Fields.has at hkey
    unfold Fields.getD
    change (Fields.get? (entitySummary record).fields key).isSome = true at hkey
    change ((Fields.get? (entitySummary record).fields key).getD .null) = _
    change Fields.get? (entitySummary record).fields key = _ at hget
    rw [hget] at hkey ⊢
    split at hkey
    case isTrue hsummary => rw [if_pos hsummary]
    case isFalse => cases hkey

/-- A loaded record is the stored one, or was not one of the graph's. -/
theorem load_eq_ok {entity record : Entity} (h : engine.load entity = .ok record) :
    engine.graph.entity? entity.id = some record ∨
      engine.graph.entity? entity.id = none ∧ record = entity := by
  unfold load at h
  split at h
  case isTrue =>
    obtain ⟨read, hread, h⟩ := Except.bind_eq_ok.1 h
    unfold HouseholdGraph.getEntity at hread
    split at hread
    case isTrue => cases hread
    case isFalse =>
      obtain rfl := Except.ok.inj hread
      cases hrecord : engine.graph.entity? entity.id with
      | none =>
          rw [hrecord] at h
          cases h
      | some stored =>
          rw [hrecord] at h
          obtain rfl := Except.ok.inj h
          exact .inl rfl
  case isFalse hcolon =>
    obtain rfl := Except.ok.inj h
    refine .inr ⟨?_, rfl⟩
    unfold HouseholdGraph.entity?
    cases hrecord : engine.graph.record entity.id with
    | none => rfl
    | some fields =>
        have := engine.graph.record_named _ _ hrecord
        exact absurd (List.contains_iff_mem.2 this) hcolon

/-- A view is loaded as the stored record. -/
theorem IsView.load {entity record : Entity} (h : engine.IsView entity)
    (hload : engine.load entity = .ok record) : engine.graph.entity? entity.id = some record := by
  rcases load_eq_ok hload with hstored | ⟨hnone, -⟩
  · exact hstored
  · obtain ⟨stored, hstored, -⟩ := h
    rw [hnone] at hstored
    cases hstored

/-! ### Edges -/

variable (engine) in
/-- The row of an edge passes the relation filters of a step. -/
def EdgePasses (relation : String) (filters : List SemanticFilter) (row : Edge) : Prop :=
  ∀ item ∈ filters, item.source = .relation → ∃ physical,
    engine.schema.relationProperty relation (item.property.getD "") = some physical ∧
      evaluatePredicate item.operator (row.get physical) item.value = true

variable (engine) in
/-- The row of a current edge of the relation, read at `source`, that passes the filters. -/
def RowFrom (relation : String) (direction : Option Direction) (filters : List SemanticFilter)
    (source : String) (row : Edge) : Prop :=
  ∃ schema : ResolvedEdgeSchema, engine.schema.catalog.edge_registry.resolve relation = .ok schema ∧
    ∃ edge ∈ engine.hostingEdges relation direction source,
      row = engine.graph.edgeRow schema.schema source edge ∧
        engine.EdgePasses relation filters row

/-- A test that succeeds tells whether the row passes one filter. -/
theorem edgeFilterMatches_eq_ok {relation : String} {row : Edge} {item : SemanticFilter}
    {passed : Bool} (h : engine.edgeFilterMatches relation row item = .ok passed) :
    ∃ physical, engine.schema.relationProperty relation (item.property.getD "") = some physical ∧
      evaluatePredicate item.operator (row.get physical) item.value = passed := by
  unfold edgeFilterMatches at h
  dsimp only at h
  split at h
  case h_1 => cases h
  case h_2 physical hphysical =>
    obtain ⟨-, -, h⟩ := Except.bind_eq_ok.1 h
    exact ⟨physical, hphysical, Except.ok.inj h⟩

/-- A test of all filters that succeeds tells whether the row passes them. -/
theorem edgeMatches_eq_ok {relation : String} {filters : List SemanticFilter} {row : Edge}
    {passed : Bool} (h : engine.edgeMatches relation filters row = .ok passed) :
    passed = true ↔ engine.EdgePasses relation filters row := by
  have hmem : ∀ item, item ∈ filters.filter (fun item => item.source = .relation) ↔
      item ∈ filters ∧ item.source = .relation := fun item => by simp
  unfold edgeMatches at h
  cases passed with
  | true =>
      refine ⟨fun _ item hitem hsource => ?_, fun _ => rfl⟩
      exact edgeFilterMatches_eq_ok (Except.allM_eq_ok_true.1 h item ((hmem item).2
        ⟨hitem, hsource⟩))
  | false =>
      refine ⟨fun hfalse => (by cases hfalse), fun hpasses => ?_⟩
      obtain ⟨item, hitem, hfail⟩ := Except.allM_eq_ok_false h
      obtain ⟨physical, hphysical, hvalue⟩ := edgeFilterMatches_eq_ok hfail
      obtain ⟨hitem, hsource⟩ := (hmem item).1 hitem
      obtain ⟨physical', hphysical', htrue⟩ := hpasses item hitem hsource
      rw [hphysical] at hphysical'
      cases hphysical'
      rw [hvalue] at htrue
      cases htrue

/-- **A read that succeeds and is filtered** returns the rows that pass, all of them. -/
theorem mem_filtered_relationEdges {relation : String} {direction : Option Direction}
    {filters : List SemanticFilter} {source : String} {read kept : List Edge}
    (hread : engine.relationEdges source relation direction = .ok read)
    (hkept : read.filterM (engine.edgeMatches relation filters) = .ok kept) (row : Edge) :
    row ∈ kept ↔ engine.RowFrom relation direction filters source row := by
  obtain ⟨resolved, hresolve, rfl⟩ := engine.relationEdges_eq_ok hread
  have hedges : engine.hostingEdges relation direction source
      = engine.graph.relationships resolved.schema.id
          (storedDirection resolved (idType source) direction) source := by
    unfold hostingEdges
    rw [hresolve]
  rw [Except.mem_of_filterM hkept, List.mem_map]
  unfold RowFrom
  constructor
  · rintro ⟨⟨edge, hedge, rfl⟩, hpass⟩
    exact ⟨resolved, hresolve, edge, hedges ▸ hedge, rfl, (edgeMatches_eq_ok hpass).1 rfl⟩
  · rintro ⟨resolved', hresolve', edge, hedge, rfl, hpass⟩
    rw [hresolve] at hresolve'
    cases hresolve'
    refine ⟨⟨edge, hedges ▸ hedge, rfl⟩, ?_⟩
    obtain ⟨tested, htested, -⟩ := Except.filterM_eq_ok hkept
    have htest := htested _ (List.mem_map.2 ⟨edge, hedges ▸ hedge, rfl⟩)
    rw [htest, Except.ok.injEq]
    exact (edgeMatches_eq_ok htest).2 hpass

/-! ### Where a step reads -/

variable (engine) in
/-- The step reads edges at `source` for the record `entity_id`. -/
def SourceOf (step : SemanticRelationStep) (entity_id source : String) : Prop :=
  source = entity_id ∨ step.relation = "contents" ∧
    (∃ record, engine.graph.entity? entity_id = some record ∧
      record.get "collapse" = .bool true) ∧
    Relation.TransGen engine.Hosts entity_id source

/-- A read of all selected edges. -/
theorem relationEdges_eq_rows {relation : String} {direction : Option Direction} {source : String}
    {read : List Edge} (h : engine.relationEdges source relation direction = .ok read) :
    ∃ schema : EdgeSchema, read = (engine.hostingEdges relation direction source).map
      (engine.graph.edgeRow schema source) := by
  obtain ⟨resolved, hresolve, rfl⟩ := engine.relationEdges_eq_ok h
  refine ⟨resolved.schema, ?_⟩
  unfold hostingEdges
  rw [hresolve]

/-- A walk that ends is a traversal that has ended. -/
theorem hostingLoop_eq_ok {relation : String} {direction : Option Direction} {parent : String} :
    ∀ {fuel : Nat} {state final : Hosting},
      Relation.ReflTransGen (DepthFirst.Step (engine.hostedIds relation direction))
        (DepthFirst.start parent) (hostingView state) →
      Gathered engine relation direction state →
      engine.hostingLoop relation direction fuel state = .ok final →
      Relation.ReflTransGen (DepthFirst.Step (engine.hostedIds relation direction))
          (DepthFirst.start parent) (hostingView final) ∧
        final.stack = [] ∧ Gathered engine relation direction final := by
  intro fuel
  induction fuel with
  | zero =>
      intro state final _ _ h
      cases h
  | succ fuel ih =>
      intro state final hrun hgathered h
      obtain ⟨descendants, edges, visited, active, stack⟩ := state
      unfold hostingLoop at h
      cases stack with
      | nil =>
          obtain rfl := Except.ok.inj h
          exact ⟨hrun, rfl, hgathered⟩
      | cons entry stack =>
          obtain ⟨entity, leaving⟩ := entry
          cases leaving with
          | true =>
              exact @ih ⟨descendants, edges, visited, active.erase entity.id, stack⟩ final
                (hrun.tail (.leave _ _ _ _)) hgathered h
          | false =>
              dsimp only at h
              split at h
              case isTrue => cases h
              case isFalse =>
                split at h
                case isTrue hseen =>
                  exact @ih ⟨descendants, edges, visited, active, stack⟩ final
                    (hrun.tail (.skip _ _ _ _ (List.contains_iff_mem.1 hseen))) hgathered h
                case isFalse hseen =>
                  rw [List.contains_iff_mem] at hseen
                  obtain ⟨read, hread, h⟩ := Except.bind_eq_ok.1 h
                  obtain ⟨schema, rfl⟩ := relationEdges_eq_rows hread
                  refine ih (hrun.tail ?_) (gathered_visit hgathered) h
                  rw [hostingView_visit]
                  exact .enter _ _ _ _ hseen

/-- The expansion of a collapsed container, where it succeeds. -/
theorem hostedDescendants_eq_ok {parent : Entity} {spaces : List Entity} {edges : List Edge}
    (h : engine.hostedDescendants parent = .ok (spaces, edges)) (id : String) :
    id ∈ spaces.map Entity.id ↔ Relation.TransGen engine.Hosts parent.id id := by
  unfold hostedDescendants at h
  split at h
  case h_1 hnone =>
    obtain ⟨rfl, -⟩ := Prod.mk.inj (Except.ok.inj h)
    refine ⟨fun hid => (by cases hid), fun hpath => ?_⟩
    obtain ⟨next, ⟨_, _, hsome, -⟩, -⟩ := Relation.TransGen.head'_iff.1 hpath
    rw [hnone] at hsome
    cases hsome
  case h_2 relation direction hsome =>
    obtain ⟨final, hloop, h⟩ := Except.bind_eq_ok.1 h
    obtain ⟨rfl, -⟩ := Prod.mk.inj (Except.ok.inj h)
    have hgathered : Gathered engine relation direction ⟨[], [], [], [], [(parent, false)]⟩ :=
      fun id => ⟨fun hid => (by cases hid), fun ⟨_, hhost, _⟩ => by cases hhost⟩
    obtain ⟨hrun, hdone, hgathered⟩ := @hostingLoop_eq_ok engine relation direction parent.id _
      ⟨[], [], [], [], [(parent, false)]⟩ _ .refl hgathered hloop
    have hdone' : (hostingView final).stack = [] := by
      unfold hostingView
      rw [hdone]
      rfl
    have hhosts := hostedIds_hosts hsome
    rw [(uniqueEntities_ids _).2 id, hgathered id, Relation.TransGen.tail'_iff]
    refine exists_congr fun host => and_congr ?_ (mem_hostedIds hsome)
    rw [← hhosts]
    exact DepthFirst.mem_visited_iff hrun hdone'

/-- **Where a step reads for a record.** -/
theorem stepSources_eq_ok {step : SemanticRelationStep} {entity : Entity} {collapsed : Bool}
    {hosting : List Edge} {sources : List Entity} (hknown : engine.Known entity)
    (h : engine.stepSources step entity = .ok (collapsed, hosting, sources)) (source : String) :
    (source ∈ sources.map Entity.id ↔ engine.SourceOf step entity.id source) ∧
      (collapsed = true ↔ step.relation = "contents" ∧ ∃ record,
        engine.graph.entity? entity.id = some record ∧ record.get "collapse" = .bool true) := by
  unfold stepSources at h
  unfold SourceOf
  split at h
  case isFalse hrelation =>
    cases h
    simp [hrelation]
  case isTrue hrelation =>
    obtain ⟨stored, hstored, h⟩ := Except.bind_eq_ok.1 h
    have hid := engine.load_id hstored
    -- what is loaded decides, and an identity that is not stored is not collapsed
    have hcollapse : (∃ record, engine.graph.entity? entity.id = some record ∧
        record.get "collapse" = .bool true) ↔ stored.get "collapse" = .bool true := by
      rcases load_eq_ok hstored with hrecord | ⟨hnone, rfl⟩
      · rw [hrecord]
        simp
      · rw [hnone]
        refine ⟨fun ⟨_, hcontra, _⟩ => (by cases hcontra), fun htrue => ?_⟩
        rcases hknown with ⟨record, hrecord, -⟩ | hfields
        · rw [hnone] at hrecord
          cases hrecord
        · have hhas : stored.has "collapse" = true := by
            unfold Entity.get Fields.getD at htrue
            unfold Entity.has Fields.has
            rw [if_neg (by decide)] at htrue
            cases hget : stored.fields.get? "collapse" with
            | none =>
                rw [hget] at htrue
                cases htrue
            | some value => rfl
          rcases hfields _ hhas with hkey | hkey <;> exact absurd hkey (by decide)
    rw [hcollapse]
    split at h
    case isTrue htrue =>
      obtain ⟨⟨spaces, edges⟩, hspaces, h⟩ := Except.bind_eq_ok.1 h
      cases h
      have hmem := hostedDescendants_eq_ok hspaces source
      rw [hid] at hmem
      rw [List.map_cons, List.mem_cons, hmem]
      simp [hrelation, htrue]
    case isFalse hfalse =>
      cases h
      simp [hfalse]

/-- The edges that were read for one record. -/
theorem mem_entityEdges {step : SemanticRelationStep} {relation : String}
    {direction : Option Direction} {entity : Entity} {reads : EntityEdges}
    (hknown : engine.Known entity)
    (h : engine.entityEdges step relation direction entity = .ok reads) (source : String)
    (row : Edge) : (∃ read ∈ reads.sources, read.source.id = source ∧ row ∈ read.edges) ↔
      engine.SourceOf step entity.id source ∧
        engine.RowFrom relation direction step.filters source row := by
  unfold entityEdges at h
  obtain ⟨⟨collapsed, hosting, sources⟩, hsources, h⟩ := Except.bind_eq_ok.1 h
  obtain ⟨found, hfound, h⟩ := Except.bind_eq_ok.1 h
  obtain rfl := Except.ok.inj h
  have hread : ∀ (origin : Entity) (read : SourceEdges), (do
      let edges ← engine.relationEdges origin.id relation direction
      return SourceEdges.mk origin (← edges.filterM (engine.edgeMatches relation step.filters)))
        = .ok read → read.source = origin ∧ ∀ row, row ∈ read.edges ↔
          engine.RowFrom relation direction step.filters origin.id row := by
    intro origin read hread
    obtain ⟨edges, hedges, hread⟩ := Except.bind_eq_ok.1 hread
    obtain ⟨kept, hkept, hread⟩ := Except.bind_eq_ok.1 hread
    obtain rfl := Except.ok.inj hread
    exact ⟨rfl, mem_filtered_relationEdges hedges hkept⟩
  have hall := Except.mapM_eq_ok.1 hfound
  rw [← (stepSources_eq_ok hknown hsources source).1]
  dsimp only
  constructor
  · rintro ⟨read, hmem, rfl, hrow⟩
    obtain ⟨origin, horigin, hok⟩ := List.exists_of_forall₂_right hall hmem
    obtain ⟨hsource, hrows⟩ := hread origin read hok
    rw [hsource]
    exact ⟨List.mem_map_of_mem horigin, (hrows row).1 hrow⟩
  · rintro ⟨hsource, hrow⟩
    obtain ⟨origin, horigin, rfl⟩ := List.mem_map.1 hsource
    obtain ⟨read, hmem, hok⟩ := List.exists_of_forall₂_left hall horigin
    obtain ⟨hsource, hrows⟩ := hread origin read hok
    exact ⟨read, hmem, by rw [hsource], (hrows row).2 hrow⟩

/-- **What a step reads.** -/
theorem mem_reads {step : SemanticRelationStep} {relation : String} {direction : Option Direction}
    {entities : List Entity} {reads : List EntityEdges}
    (hknown : ∀ entity ∈ entities, engine.Known entity)
    (h : entities.mapM (engine.entityEdges step relation direction) = .ok reads) (source : String)
    (row : Edge) :
    (∃ read ∈ reads.flatMap fun read => read.sources, read.source.id = source ∧ row ∈ read.edges) ↔
      ∃ entity ∈ entities, engine.SourceOf step entity.id source ∧
        engine.RowFrom relation direction step.filters source row := by
  have hall := Except.mapM_eq_ok.1 h
  constructor
  · rintro ⟨read, hmem, hread⟩
    obtain ⟨found, hfound, hmem⟩ := List.mem_flatMap.1 hmem
    obtain ⟨entity, hentity, hok⟩ := List.exists_of_forall₂_right hall hfound
    exact ⟨entity, hentity, (mem_entityEdges (hknown entity hentity) hok source row).1
      ⟨read, hmem, hread⟩⟩
  · rintro ⟨entity, hentity, hrow⟩
    obtain ⟨found, hfound, hok⟩ := List.exists_of_forall₂_left hall hentity
    obtain ⟨read, hmem, hread⟩ :=
      (mem_entityEdges (hknown entity hentity) hok source row).2 hrow
    exact ⟨read, List.mem_flatMap.2 ⟨found, hfound, hmem⟩, hread⟩

/-! ### Entity filters of a step -/

variable (engine) in
/-- A stored record passes the entity filters of a step. -/
def EntityPasses (now : Clock) (anchors : List Entity) (filters : List SemanticFilter)
    (record : Entity) : Prop :=
  ∀ item ∈ filters, item.source = .entity → ∃ physical,
    engine.schema.physicalProperty (entityType record) (item.property.getD "") = some physical ∧
      engine.stepFilterMatches now anchors item (record.get physical) = .ok true

/-- A record that is tested for the fields it is said to have reads as the stored one. -/
theorem IsView.tested {entity record tested : Entity} (h : engine.IsView entity)
    (hrecord : engine.graph.entity? entity.id = some record) {fields : List String}
    (htested : (if fields.all entity.has then pure entity else engine.load entity) = .ok tested) :
    engine.IsView tested ∧ tested.id = entity.id ∧ ∀ key ∈ fields, tested.get key = record.get key := by
  split at htested
  case isTrue hhas =>
    obtain rfl := Except.ok.inj htested
    obtain ⟨stored, hstored, hview⟩ := h
    rw [hrecord] at hstored
    cases hstored
    exact ⟨⟨record, hrecord, hview⟩, rfl, fun key hkey => hview key (List.all_eq_true.1 hhas key hkey)⟩
  case isFalse =>
    have hstored := h.load htested
    rw [hrecord] at hstored
    cases hstored
    exact ⟨isView_of_entity? hrecord, entity?_id hrecord, fun _ _ => rfl⟩

/-- The filters beside the stored names of their properties. -/
theorem mappedFilters_eq_ok {entity_type : String} {filters : List SemanticFilter}
    {mapped : List (SemanticFilter × String)}
    (h : engine.mappedFilters entity_type filters = .ok mapped) :
    List.Forall₂ (fun item entry => entry.1 = item ∧
      engine.schema.physicalProperty entity_type (item.property.getD "") = some entry.2)
      filters mapped := by
  refine (Except.mapM_eq_ok.1 h).imp fun item entry hok => ?_
  dsimp only at hok
  split at hok
  case h_1 physical hphysical =>
    obtain rfl := Except.ok.inj hok
    exact ⟨rfl, hphysical⟩
  case h_2 => cases hok

/-- **A test of a view** decides what its stored record passes. -/
theorem filterEntity_eq_ok {now : Clock} {anchors : List Entity} {filters : List SemanticFilter}
    {entity record : Entity} {outcome : Option Entity} (hview : engine.IsView entity)
    (hrecord : engine.graph.entity? entity.id = some record)
    (hfilters : ∀ item ∈ filters, item.source = .entity)
    (h : engine.filterEntity now anchors filters entity = .ok outcome) :
    (outcome.isSome = true ↔ engine.EntityPasses now anchors filters record) ∧
      ∀ kept, outcome = some kept → engine.IsView kept := by
  unfold filterEntity at h
  obtain ⟨mapped, hmapped, h⟩ := Except.bind_eq_ok.1 h
  have hall := mappedFilters_eq_ok hmapped
  have htype : entityType entity = entityType record := by
    rw [entityType, entityType, entity?_id hrecord]
  have hmem : ∀ entry ∈ mapped, entry.1 ∈ filters ∧
      engine.schema.physicalProperty (entityType record) (entry.1.property.getD "")
        = some entry.2 := by
    intro entry hentry
    obtain ⟨item, hitem, rfl, hphysical⟩ := List.exists_of_forall₂_right hall hentry
    exact ⟨hitem, htype ▸ hphysical⟩
  have hrest : ∀ tested : Entity, engine.IsView tested →
      (∀ entry ∈ mapped, tested.get entry.2 = record.get entry.2) →
      (mapped.mapM (fun entry => engine.stepFilterMatches now anchors entry.1
        (tested.get entry.2)) >>= fun predicates =>
          pure (if predicates.all id = true then some tested else none)) = .ok outcome →
      (outcome.isSome = true ↔ engine.EntityPasses now anchors filters record) ∧
        ∀ kept, outcome = some kept → engine.IsView kept := by
    intro tested hviewed hget h
    obtain ⟨predicates, hpredicates, h⟩ := Except.bind_eq_ok.1 h
    obtain rfl := Except.ok.inj h
    have htests := Except.mapM_eq_ok.1 hpredicates
    have hpasses : predicates.all id = true ↔ engine.EntityPasses now anchors filters record := by
      rw [List.all_eq_true]
      constructor
      · intro hpredicates item hitem _
        obtain ⟨entry, hentry, rfl, -⟩ := List.exists_of_forall₂_left hall hitem
        obtain ⟨passed, hpassed, htest⟩ := List.exists_of_forall₂_left htests hentry
        rw [hget _ hentry, show passed = true from hpredicates passed hpassed] at htest
        exact ⟨entry.2, (hmem _ hentry).2, htest⟩
      · intro hpasses passed hpassed
        obtain ⟨entry, hentry, htest⟩ := List.exists_of_forall₂_right htests hpassed
        obtain ⟨hitem, hphysical⟩ := hmem entry hentry
        obtain ⟨physical, hphysical', htrue⟩ := hpasses entry.1 hitem (hfilters _ hitem)
        rw [hphysical] at hphysical'
        cases hphysical'
        rw [hget _ hentry, htrue] at htest
        exact (Except.ok.inj htest).symm
    split
    case isTrue hpassed =>
      exact ⟨⟨fun _ => hpasses.1 hpassed, fun _ => rfl⟩, fun kept hkept => by
        obtain rfl := Option.some.inj hkept
        exact hviewed⟩
    case isFalse hfailed =>
      refine ⟨⟨fun hsome => (by cases hsome), fun hall => absurd (hpasses.2 hall) hfailed⟩, ?_⟩
      rintro kept hkept
      cases hkept
  have hfields : (mapped.map Prod.snd).all entity.has = mapped.all fun entry => entity.has entry.2 := by
    rw [List.all_map]
    rfl
  dsimp only at h
  split at h
  case isTrue hhas =>
    obtain ⟨hviewed, -, hget⟩ := @IsView.tested _ _ _ _ hview hrecord (mapped.map Prod.snd)
      (if_pos (hfields ▸ hhas))
    exact hrest entity hviewed (fun entry hentry => hget _ (List.mem_map_of_mem hentry)) h
  case isFalse hhas =>
    obtain ⟨loaded, hload, h⟩ := Except.bind_eq_ok.1 h
    obtain ⟨hviewed, -, hget⟩ := @IsView.tested _ _ _ _ hview hrecord (mapped.map Prod.snd)
      ((if_neg (hfields ▸ hhas)).trans hload)
    exact hrest loaded hviewed (fun entry hentry => hget _ (List.mem_map_of_mem hentry)) h

/-- **Filtering views** keeps those whose stored records pass. -/
theorem mem_filterEntities {now : Clock} {anchors entities kept : List Entity}
    {filters : List SemanticFilter} (hviews : ∀ entity ∈ entities, engine.IsView entity)
    (h : engine.filterEntities now anchors filters entities = .ok kept) :
    (∀ id, id ∈ kept.map Entity.id ↔ id ∈ entities.map Entity.id ∧ ∃ record,
      engine.graph.entity? id = some record ∧ engine.EntityPasses now anchors filters record) ∧
    ∀ entity ∈ kept, engine.IsView entity := by
  have hsource : ∀ item, item ∈ filters.filter (fun item => item.source = .entity) ↔
      item ∈ filters ∧ item.source = .entity := fun item => by simp
  have hpasses : ∀ record, engine.EntityPasses now anchors filters record ↔
      engine.EntityPasses now anchors (filters.filter fun item => item.source = .entity) record :=
    fun record => ⟨fun hall item hitem => hall item ((hsource item).1 hitem).1,
      fun hall item hitem hentity => hall item ((hsource item).2 ⟨hitem, hentity⟩) hentity⟩
  unfold filterEntities at h
  split at h
  case h_1 hnone =>
    obtain rfl := Except.ok.inj h
    refine ⟨fun id => ⟨fun hid => ⟨hid, ?_⟩, fun hid => hid.1⟩, hviews⟩
    obtain ⟨entity, hentity, rfl⟩ := List.mem_map.1 hid
    obtain ⟨record, hrecord, -⟩ := hviews entity hentity
    refine ⟨record, hrecord, (hpasses record).2 fun item hitem => ?_⟩
    rw [hnone] at hitem
    cases hitem
  case h_2 =>
    obtain ⟨outcomes, houtcomes, h⟩ := Except.bind_eq_ok.1 h
    obtain rfl := Except.ok.inj h
    have hall := Except.mapM_eq_ok.1 houtcomes
    have htest : ∀ entity ∈ entities, ∀ outcome, engine.filterEntity now anchors
        (filters.filter fun item => item.source = .entity) entity = .ok outcome →
        ∃ record, engine.graph.entity? entity.id = some record ∧
          (outcome.isSome = true ↔ engine.EntityPasses now anchors filters record) ∧
          ∀ kept, outcome = some kept → engine.IsView kept := by
      intro entity hentity outcome hok
      obtain ⟨record, hrecord, -⟩ := hviews entity hentity
      obtain ⟨hiff, hview⟩ := filterEntity_eq_ok (hviews entity hentity) hrecord
        (fun item hitem => ((hsource item).1 hitem).2) hok
      exact ⟨record, hrecord, hiff.trans (hpasses record).symm, hview⟩
    refine ⟨fun id => ⟨fun hid => ?_, ?_⟩, fun entity hentity => ?_⟩
    · obtain ⟨kept, hkept, rfl⟩ := List.mem_map.1 hid
      obtain ⟨outcome, houtcome, hsome⟩ := List.mem_filterMap.1 hkept
      obtain rfl : outcome = some kept := hsome
      obtain ⟨entity, hentity, hok⟩ := List.exists_of_forall₂_right hall houtcome
      obtain ⟨record, hrecord, hiff, -⟩ := htest entity hentity _ hok
      rw [engine.filterEntity_id hok]
      exact ⟨List.mem_map_of_mem hentity, record, hrecord, hiff.1 rfl⟩
    · rintro ⟨hid, record, hrecord, hpass⟩
      obtain ⟨entity, hentity, rfl⟩ := List.mem_map.1 hid
      obtain ⟨outcome, houtcome, hok⟩ := List.exists_of_forall₂_left hall hentity
      obtain ⟨record', hrecord', hiff, -⟩ := htest entity hentity _ hok
      rw [hrecord] at hrecord'
      cases hrecord'
      obtain ⟨kept, rfl⟩ := Option.isSome_iff_exists.1 (hiff.2 hpass)
      rw [← engine.filterEntity_id hok]
      exact List.mem_map_of_mem (List.mem_filterMap.2 ⟨some kept, houtcome, rfl⟩)
    · obtain ⟨outcome, houtcome, hsome⟩ := List.mem_filterMap.1 hentity
      obtain rfl : outcome = some entity := hsome
      obtain ⟨found, hfound, hok⟩ := List.exists_of_forall₂_right hall houtcome
      obtain ⟨-, -, -, hview⟩ := htest found hfound _ hok
      exact hview entity rfl

/-! ### The step -/

variable (engine) in
/-- The relation on identities that a step denotes. -/
def stepRelation (now : Clock) (anchors : List Entity) (step : SemanticRelationStep) :
    SetRel String String :=
  {ends | ∃ relation direction,
    engine.schema.physicalRelation step.relation = some (relation, direction) ∧
      (∃ source row, engine.SourceOf step ends.1 source ∧
        engine.RowFrom relation direction step.filters source row ∧
        row.relatedId = some ends.2) ∧
      ∃ record, engine.graph.entity? ends.2 = some record ∧
        engine.EntityPasses now anchors step.filters record}

/-- The record at the far end of a row is a view of a stored one. -/
theorem RowFrom.isView {relation : String} {direction : Option Direction}
    {filters : List SemanticFilter} {source : String} {row : Edge}
    (h : engine.RowFrom relation direction filters source row) {related : Entity}
    (hrelated : row.related_entity = some related) : engine.IsView related := by
  obtain ⟨schema, -, edge, -, rfl, -⟩ := h
  rw [HouseholdGraph.edgeRow_related] at hrelated
  obtain ⟨record, hrecord, rfl⟩ := Option.map_eq_some_iff.1 hrelated
  exact isView_entitySummary hrecord

/-- **A step that succeeds returns the image of its records**, each one once. -/
theorem takeStep_image {now : Clock} {anchors entities : List Entity}
    {step : SemanticRelationStep} {reached : Reached} {passed : Remembered}
    (hknown : ∀ entity ∈ entities, engine.Known entity)
    (h : engine.takeStep now anchors step entities = .ok (reached, passed)) :
    {id | id ∈ reached.entities.map Entity.id} =
        (engine.stepRelation now anchors step).image {id | id ∈ entities.map Entity.id} ∧
      (reached.entities.map Entity.id).Nodup ∧
      ∀ entity ∈ reached.entities, engine.IsView entity := by
  unfold takeStep at h
  split at h
  case h_1 => cases h
  case h_2 relation direction hrelation =>
    obtain ⟨reads, hreads, h⟩ := Except.bind_eq_ok.1 h
    obtain ⟨kept, hkept, h⟩ := Except.bind_eq_ok.1 h
    obtain ⟨rfl, -⟩ := Prod.mk.inj (Except.ok.inj h)
    have hrows := mem_reads hknown hreads
    have hfound : ∀ related, related ∈ (reads.flatMap fun read =>
        read.sources.flatMap fun source => source.edges).filterMap (fun edge =>
          edge.related_entity) ↔ ∃ entity ∈ entities, ∃ source row,
        engine.SourceOf step entity.id source ∧
          engine.RowFrom relation direction step.filters source row ∧
          row.related_entity = some related := by
      intro related
      rw [← List.flatMap_assoc, List.mem_filterMap]
      constructor
      · rintro ⟨row, hrow, hrelated⟩
        obtain ⟨read, hread, hrow⟩ := List.mem_flatMap.1 hrow
        obtain ⟨entity, hentity, hsource, hfrom⟩ := (hrows _ row).1 ⟨read, hread, rfl, hrow⟩
        exact ⟨entity, hentity, _, row, hsource, hfrom, hrelated⟩
      · rintro ⟨entity, hentity, source, row, hsource, hfrom, hrelated⟩
        obtain ⟨read, hread, -, hrow⟩ := (hrows source row).2 ⟨entity, hentity, hsource, hfrom⟩
        exact ⟨row, List.mem_flatMap.2 ⟨read, hread, hrow⟩, hrelated⟩
    have hviews : ∀ related ∈ uniqueEntities ((reads.flatMap fun read =>
        read.sources.flatMap fun source => source.edges).filterMap fun edge =>
          edge.related_entity), engine.IsView related := by
      intro related hrelated
      obtain ⟨entity, -, source, row, -, hfrom, hrow⟩ :=
        (hfound related).1 (uniqueEntities_subset _ hrelated)
      exact hfrom.isView hrow
    obtain ⟨hmem, hkeptViews⟩ := mem_filterEntities hviews hkept
    have hunique := uniqueEntities_ids ((reads.flatMap fun read =>
      read.sources.flatMap fun source => source.edges).filterMap fun edge => edge.related_entity)
    refine ⟨?_, (engine.filterEntities_sublist hkept).nodup hunique.1, hkeptViews⟩
    ext id
    change id ∈ kept.map Entity.id ↔ _
    rw [hmem, hunique.2, List.mem_map]
    simp only [hfound, SetRel.mem_image, Set.mem_ofPred_eq, stepRelation, List.mem_map]
    constructor
    · rintro ⟨⟨related, ⟨entity, hentity, source, row, hsource, hfrom, hrow⟩, rfl⟩, hrecord⟩
      exact ⟨entity.id, ⟨entity, hentity, rfl⟩, relation, direction, hrelation,
        ⟨source, row, hsource, hfrom, by rw [Edge.relatedId, hrow]; rfl⟩, hrecord⟩
    · rintro ⟨_, ⟨entity, hentity, rfl⟩, relation', direction', hrelation',
        ⟨source, row, hsource, hfrom, hto⟩, hrecord⟩
      rw [hrelation] at hrelation'
      obtain ⟨rfl, rfl⟩ := Prod.mk.inj (Option.some.inj hrelation')
      obtain ⟨related, hrelated, hid⟩ := Option.map_eq_some_iff.1 hto
      exact ⟨⟨related, ⟨entity, hentity, source, row, hsource, hfrom, hrelated⟩, hid⟩, hrecord⟩

end HouseholdFactEngine
end HomeCortex
