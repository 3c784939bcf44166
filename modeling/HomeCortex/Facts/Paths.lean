/-
# Following the path of a reference

What one read returns (`relationEdges_eq_ok`), which edges a step passes and in which
order (`takeStep_remembered`), and what a whole path adds to them
(`followPath_remembered`).  The first edge a path passes is always one at the record
it starts from.
-/

import HomeCortex.Facts.Engine
import HomeCortex.Library.Checked

namespace HomeCortex

/-! ### Rows -/

theorem Edge.get_toFields {edge : Edge} {key : String} (h : key ≠ "related_entity") :
    edge.get key = edge.fields.getD key := by
  unfold Edge.get Edge.toFields
  cases edge.related_entity with
  | none => rfl
  | some related =>
      unfold Fields.getD
      dsimp only
      rw [Fields.get?_set, if_neg (Ne.symm h)]

namespace HouseholdGraph

variable (graph : HouseholdGraph) (schema : EdgeSchema) (entity_id : String) (edge : GraphEdge)

theorem edgeRow_in : (graph.edgeRow schema entity_id edge).get "in" = .str edge.source := by
  rw [Edge.get_toFields (by decide)]
  unfold edgeRow Fields.getD
  dsimp only
  split <;> simp [Fields.get?_set]

theorem edgeRow_out : (graph.edgeRow schema entity_id edge).get "out" = .str edge.target := by
  rw [Edge.get_toFields (by decide)]
  unfold edgeRow Fields.getD
  dsimp only
  split <;> simp [Fields.get?_set]

theorem edgeRow_related : (graph.edgeRow schema entity_id edge).related_entity
    = (graph.entity? (edge.far entity_id)).map entitySummary := rfl

/-- An edge that a read selects has the record it is read from at one end. -/
theorem touches_ends {direction : Option Direction} {edge : GraphEdge} {entity_id : String}
    (h : edge.touches direction entity_id = true) :
    edge.source = entity_id ∨ edge.target = entity_id := by
  unfold GraphEdge.touches at h
  split at h
  · exact .inl (by simpa using h)
  · exact .inr (by simpa using h)
  · simpa using h

end HouseholdGraph

namespace HouseholdFactEngine

variable (engine : HouseholdFactEngine)

/-- **A read that is not cut off returns every edge it selects.** -/
theorem relationEdges_eq_ok {entity_id relation : String} {direction : Option Direction}
    {edges : List Edge} (h : engine.relationEdges entity_id relation direction = .ok edges) :
    ∃ resolved : ResolvedEdgeSchema,
      engine.schema.catalog.edge_registry.resolve relation = .ok resolved ∧
      edges = (engine.graph.relationships resolved.schema.id
        (storedDirection resolved (idType entity_id) direction) entity_id).map
          (engine.graph.edgeRow resolved.schema entity_id) := by
  unfold relationEdges at h
  obtain ⟨read, hread, h⟩ := Except.bind_eq_ok.1 h
  split at h
  case isTrue => cases h
  case isFalse hcomplete =>
    obtain rfl := Except.ok.inj h
    unfold HouseholdGraph.getRelationships at hread
    split at hread
    case h_1 => cases hread
    case h_2 resolved hresolved =>
      dsimp only at hread
      split at hread
      case isTrue => cases hread
      case isFalse =>
        obtain rfl := Except.ok.inj hread
        rw [List.length_map, List.length_take] at hcomplete
        exact ⟨resolved, hresolved, by rw [List.take_of_length_le (by omega)]⟩

/-- The row of an edge at `entity_id`. -/
def RowAt (entity_id : String) (row : Edge) : Prop :=
  ∃ edge : GraphEdge, (edge.source = entity_id ∨ edge.target = entity_id) ∧
    row.get "in" = .str edge.source ∧ row.get "out" = .str edge.target

theorem rowAt_of_mem {entity_id relation : String} {direction : Option Direction}
    {edges : List Edge} (h : engine.relationEdges entity_id relation direction = .ok edges)
    {row : Edge} (hrow : row ∈ edges) : RowAt entity_id row := by
  obtain ⟨resolved, -, rfl⟩ := engine.relationEdges_eq_ok h
  obtain ⟨edge, hedge, rfl⟩ := List.mem_map.1 hrow
  exact ⟨edge, HouseholdGraph.touches_ends (List.mem_filter.1 hedge).2,
    engine.graph.edgeRow_in _ _ _, engine.graph.edgeRow_out _ _ _⟩

/-- A record is loaded under its own identity. -/
theorem load_id {entity record : Entity} (h : engine.load entity = .ok record) :
    record.id = entity.id := by
  unfold load at h
  split at h
  case isTrue =>
    obtain ⟨read, hread, h⟩ := Except.bind_eq_ok.1 h
    unfold HouseholdGraph.getEntity at hread
    split at hread
    case isTrue => cases hread
    case isFalse =>
      obtain rfl := Except.ok.inj hread
      unfold HouseholdGraph.entity? at h
      cases hrecord : engine.graph.record entity.id with
      | none =>
          rw [hrecord] at h
          cases h
      | some fields =>
          rw [hrecord] at h
          obtain rfl := Except.ok.inj h
          rfl
  case isFalse =>
    obtain rfl := Except.ok.inj h
    rfl

theorem loadIfUnnamed_id {entity record : Entity} (h : engine.loadIfUnnamed entity = .ok record) :
    record.id = entity.id := by
  unfold loadIfUnnamed at h
  split at h
  · obtain rfl := Except.ok.inj h
    rfl
  · exact engine.load_id h

/-! ### Hosting edges -/

theorem hostingLoop_edges {relation : String} {direction : Option Direction} :
    ∀ {fuel : Nat} {state final : Hosting},
      engine.hostingLoop relation direction fuel state = .ok final →
      ∃ more, final.edges = state.edges ++ more := by
  intro fuel
  induction fuel with
  | zero => intro state final h; cases h
  | succ fuel ih =>
      intro state final h
      unfold hostingLoop at h
      split at h
      case h_1 =>
        obtain rfl := Except.ok.inj h
        exact ⟨[], (List.append_nil _).symm⟩
      case h_2 =>
        obtain ⟨more, hmore⟩ := ih h
        exact ⟨more, hmore⟩
      case h_3 entity stack _ =>
        split at h
        · cases h
        split at h
        · obtain ⟨more, hmore⟩ := ih h
          exact ⟨more, hmore⟩
        obtain ⟨edges, -, h⟩ := Except.bind_eq_ok.1 h
        obtain ⟨more, hmore⟩ := ih h
        unfold Hosting.visit at hmore
        exact ⟨_, by rw [hmore, List.append_assoc]⟩

/-- **The first hosting edge is one at the host**; without it there is none. -/
theorem hostedDescendants_first {parent : Entity} {descendants : List Entity} {hosting : List Edge}
    (h : engine.hostedDescendants parent = .ok (descendants, hosting)) :
    (hosting = [] ∧ descendants = []) ∨
      ∃ first rest, hosting = first :: rest ∧ RowAt parent.id first := by
  unfold hostedDescendants at h
  split at h
  case h_1 =>
    obtain ⟨rfl, rfl⟩ := Prod.mk.inj (Except.ok.inj h)
    exact .inl ⟨rfl, rfl⟩
  case h_2 relation direction _ =>
    obtain ⟨final, hloop, h⟩ := Except.bind_eq_ok.1 h
    obtain ⟨rfl, rfl⟩ := Prod.mk.inj (Except.ok.inj h)
    obtain ⟨fuel, hfuel⟩ : ∃ fuel, engine.hostingRounds relation = fuel + 2 :=
      ⟨engine.hostingRounds relation - 2, by unfold hostingRounds; omega⟩
    rw [hfuel] at hloop
    unfold hostingLoop at hloop
    dsimp only at hloop
    simp only [List.contains_nil, Bool.false_eq_true, if_false] at hloop
    obtain ⟨edges, hedges, hloop⟩ := Except.bind_eq_ok.1 hloop
    cases hhosting : edges.filter fun edge => (hostedChild? edge).isSome with
    | nil =>
        left
        unfold Hosting.visit at hloop
        simp only [hhosting, List.filterMap_nil, List.append_nil, List.reverse_nil, List.map_nil,
          List.nil_append] at hloop
        unfold hostingLoop at hloop
        dsimp only at hloop
        cases fuel with
        | zero => cases hloop
        | succ fuel =>
            obtain rfl := Except.ok.inj hloop
            exact ⟨rfl, rfl⟩
    | cons first rest =>
        right
        obtain ⟨more, hmore⟩ := engine.hostingLoop_edges hloop
        unfold Hosting.visit at hmore
        simp only [hhosting, List.nil_append, List.cons_append] at hmore
        refine ⟨first, rest ++ more, hmore, engine.rowAt_of_mem hedges ?_⟩
        have hmem : first ∈ edges.filter fun edge => (hostedChild? edge).isSome := by
          rw [hhosting]
          exact List.mem_cons_self
        exact (List.mem_filter.1 hmem).1

/-! ### Steps -/

theorem mapM_singleton {α β ε : Type} {f : α → Except ε β} {x : α} {ys : List β}
    (h : [x].mapM f = .ok ys) : ∃ y, f x = .ok y ∧ ys = [y] := by
  rw [List.mapM_cons] at h
  obtain ⟨y, hy, h⟩ := Except.bind_eq_ok.1 h
  obtain ⟨rest, hrest, h⟩ := Except.bind_eq_ok.1 h
  obtain rfl := Except.ok.inj hrest
  exact ⟨y, hy, (Except.ok.inj h).symm⟩

/-- What a record's sources are: the record, and the spaces it hosts. -/
theorem stepSources_first {step : SemanticRelationStep} {entity : Entity} {collapsed : Bool}
    {hosting : List Edge} {sources : List Entity}
    (h : engine.stepSources step entity = .ok (collapsed, hosting, sources)) :
    (hosting = [] ∧ sources = [entity]) ∨
      ∃ first rest, hosting = first :: rest ∧ RowAt entity.id first := by
  unfold stepSources at h
  split at h
  case isFalse =>
    cases h
    exact .inl ⟨rfl, rfl⟩
  case isTrue =>
    obtain ⟨stored, hstored, h⟩ := Except.bind_eq_ok.1 h
    split at h
    case isFalse =>
      cases h
      exact .inl ⟨rfl, rfl⟩
    case isTrue =>
      obtain ⟨⟨descendants, edges⟩, hdescendants, h⟩ := Except.bind_eq_ok.1 h
      cases h
      rw [← engine.load_id hstored]
      rcases engine.hostedDescendants_first hdescendants with ⟨rfl, rfl⟩ | hfirst
      · exact .inl ⟨rfl, rfl⟩
      · exact .inr hfirst

/-- **The first edge that a record's reads pass is one at the record.** -/
theorem entityEdges_first {step : SemanticRelationStep} {relation : String}
    {direction : Option Direction} {entity : Entity} {reads : EntityEdges}
    (h : engine.entityEdges step relation direction entity = .ok reads) {name : String}
    {first : String × Edge} {rest : Remembered} (hfirst : reads.remembered name = first :: rest) :
    RowAt entity.id first.2 := by
  unfold entityEdges at h
  obtain ⟨⟨collapsed, hosting, sources⟩, hsources, h⟩ := Except.bind_eq_ok.1 h
  obtain ⟨found, hfound, h⟩ := Except.bind_eq_ok.1 h
  obtain rfl := Except.ok.inj h
  unfold EntityEdges.remembered at hfirst
  dsimp only at hfirst
  rcases engine.stepSources_first hsources with ⟨rfl, rfl⟩ | ⟨edge, edges, rfl, hrow⟩
  · obtain ⟨read, hread, rfl⟩ := mapM_singleton hfound
    obtain ⟨edges, hedges, hread⟩ := Except.bind_eq_ok.1 hread
    obtain ⟨kept, hkept, hread⟩ := Except.bind_eq_ok.1 hread
    obtain rfl := Except.ok.inj hread
    have hmem : first ∈ kept.map fun edge => (name, edge) := by
      simp only [List.map_nil, List.nil_append, List.flatMap_cons, List.flatMap_nil,
        List.append_nil] at hfirst
      rw [hfirst]
      exact List.mem_cons_self
    obtain ⟨edge, hedge, rfl⟩ := List.mem_map.1 hmem
    exact engine.rowAt_of_mem hedges ((Except.mem_of_filterM hkept).1 hedge).1
  · rw [List.map_cons, List.cons_append] at hfirst
    obtain ⟨rfl, -⟩ := List.cons.inj hfirst
    exact hrow

/-- A record that passes the filters is the one that was tested, perhaps loaded. -/
theorem filterEntity_id {now : Clock} {anchors : List Entity} {filters : List SemanticFilter}
    {entity record : Entity}
    (h : engine.filterEntity now anchors filters entity = .ok (some record)) :
    record.id = entity.id := by
  unfold filterEntity at h
  obtain ⟨mapped, -, h⟩ := Except.bind_eq_ok.1 h
  have hrecord : ∀ tested : Entity, tested.id = entity.id →
      (mapped.mapM (fun entry => engine.stepFilterMatches now anchors entry.1
        (tested.get entry.2)) >>= fun predicates =>
          pure (if predicates.all id = true then some tested else none))
        = .ok (some record) → record.id = entity.id := by
    intro tested hid htest
    obtain ⟨predicates, -, htest⟩ := Except.bind_eq_ok.1 htest
    have hkept := Except.ok.inj htest
    split at hkept
    · obtain rfl := Option.some.inj hkept
      exact hid
    · cases hkept
  dsimp only at h
  split at h
  · exact hrecord entity rfl h
  · obtain ⟨loaded, hload, h⟩ := Except.bind_eq_ok.1 h
    exact hrecord loaded (engine.load_id hload) h

theorem filterMap_tested_sublist {now : Clock} {anchors entities : List Entity}
    {filters : List SemanticFilter} {outcomes : List (Option Entity)}
    (h : List.Forall₂ (fun entity outcome =>
      engine.filterEntity now anchors filters entity = .ok outcome) entities outcomes) :
    ((outcomes.filterMap id).map Entity.id).Sublist (entities.map Entity.id) := by
  induction h with
  | nil => exact List.Sublist.refl _
  | @cons entity outcome entities outcomes htest _ ih =>
      cases outcome with
      | none => exact ih.cons _
      | some record =>
          rw [List.map_cons, ← engine.filterEntity_id htest]
          exact ih.cons_cons _

/-- Filtering keeps identities, in their order. -/
theorem filterEntities_sublist {now : Clock} {anchors entities kept : List Entity}
    {filters : List SemanticFilter}
    (h : engine.filterEntities now anchors filters entities = .ok kept) :
    (kept.map Entity.id).Sublist (entities.map Entity.id) := by
  unfold filterEntities at h
  split at h
  case h_1 =>
    obtain rfl := Except.ok.inj h
    exact List.Sublist.refl _
  case h_2 =>
    obtain ⟨outcomes, houtcomes, h⟩ := Except.bind_eq_ok.1 h
    obtain rfl := Except.ok.inj h
    exact engine.filterMap_tested_sublist (Except.mapM_eq_ok.1 houtcomes)

/-- Filtering keeps records, loaded where their fields are missing. -/
theorem filterEntities_ids {now : Clock} {anchors entities kept : List Entity}
    {filters : List SemanticFilter}
    (h : engine.filterEntities now anchors filters entities = .ok kept) :
    ∀ entity ∈ kept, ∃ found ∈ entities, found.id = entity.id := by
  intro entity hentity
  exact List.mem_map.1 ((engine.filterEntities_sublist h).subset (List.mem_map_of_mem hentity))

/-- A step that passes no edge reaches no record. -/
theorem takeStep_nil {now : Clock} {anchors entities : List Entity} {step : SemanticRelationStep}
    {reached : Reached} (h : engine.takeStep now anchors step entities = .ok (reached, [])) :
    reached.entities = [] := by
  unfold takeStep at h
  split at h
  case h_1 => cases h
  case h_2 relation direction _ =>
    obtain ⟨reads, -, h⟩ := Except.bind_eq_ok.1 h
    obtain ⟨kept, hkept, h⟩ := Except.bind_eq_ok.1 h
    obtain ⟨rfl, hpassed⟩ := Prod.mk.inj (Except.ok.inj h)
    have hedges : reads.flatMap (fun read => read.sources.flatMap fun source => source.edges)
        = [] := by
      rw [List.flatMap_eq_nil_iff] at hpassed ⊢
      intro read hread
      have hnone := hpassed read hread
      unfold EntityEdges.remembered at hnone
      rw [List.append_eq_nil_iff, List.flatMap_eq_nil_iff] at hnone
      rw [List.flatMap_eq_nil_iff]
      exact fun source hsource => List.map_eq_nil_iff.1 (hnone.2 source hsource)
    rw [hedges] at hkept
    have hids := engine.filterEntities_ids hkept
    cases hentities : (reachedBy reads kept).entities with
    | nil => rfl
    | cons entity rest =>
        obtain rfl : kept = entity :: rest := hentities
        obtain ⟨found, hfound, -⟩ := hids entity List.mem_cons_self
        cases hfound

/-- A path adds the edges it passes to those remembered before. -/
theorem followPath_remembered {now : Clock} {anchors : List Entity} {allow_empty : Bool}
    {path : List SemanticRelationStep} :
    ∀ {reached final : Reached} {remembered after : Remembered},
      engine.followPath now anchors allow_empty path reached remembered = .ok (final, after) →
      ∃ more, after = remembered ++ more := by
  induction path with
  | nil =>
      intro reached final remembered after h
      cases h
      exact ⟨[], (List.append_nil _).symm⟩
  | cons step path ih =>
      intro reached final remembered after h
      unfold followPath at h
      obtain ⟨⟨next, passed⟩, -, h⟩ := Except.bind_eq_ok.1 h
      dsimp only at h
      split at h
      case isTrue =>
        split at h
        case isTrue =>
          cases h
          exact ⟨passed, rfl⟩
        case isFalse => cases h
      case isFalse =>
        obtain ⟨more, rfl⟩ := ih h
        exact ⟨passed ++ more, by rw [List.append_assoc]⟩

/-- **The edges of a path start with those of its first step**; a first step that passes
none reaches no record. -/
theorem resolvePath_first {context : AgentRequestContext} {reference : SemanticReference}
    {allow_empty : Bool} {step : SemanticRelationStep} {path : List SemanticRelationStep}
    (hpath : reference.path = step :: path) {roots : List Entity}
    (hroots : engine.rootEntities context reference = .ok roots) {final : Reached}
    {remembered : Remembered}
    (h : engine.resolvePath context reference allow_empty = .ok (final, remembered)) :
    ∃ next passed, engine.takeStep context.current_time roots step roots = .ok (next, passed) ∧
      (passed = [] → final.entities = [] ∧ remembered = []) ∧
      ∃ more, remembered = passed ++ more := by
  unfold resolvePath at h
  rw [hroots, hpath] at h
  change engine.followPath context.current_time roots allow_empty (step :: path)
    { entities := roots } [] = _ at h
  unfold followPath at h
  obtain ⟨⟨next, passed⟩, hstep, h⟩ := Except.bind_eq_ok.1 h
  refine ⟨next, passed, hstep, ?_, ?_⟩
  · rintro rfl
    dsimp only at h
    rw [engine.takeStep_nil hstep] at h
    simp only [List.isEmpty_nil, if_true] at h
    split at h
    · cases h
      exact ⟨rfl, rfl⟩
    · cases h
  · dsimp only at h
    split at h
    case isTrue =>
      split at h
      · cases h
        exact ⟨[], by simp⟩
      · cases h
    case isFalse => exact engine.followPath_remembered h

end HouseholdFactEngine

end HomeCortex
