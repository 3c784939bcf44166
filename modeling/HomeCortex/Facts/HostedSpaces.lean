/-
# Hosted spaces

`_hosted_descendants` walks the hosting edges below a collapsed container depth first.
On a graph whose hosting reads answer in full, the walk is a depth-first traversal of
`Hosts`: it fails exactly when a cycle of hosted spaces is reachable, and otherwise
returns the spaces that are hosted, directly or not.
-/

import HomeCortex.Facts.Paths
import HomeCortex.Library.DepthFirst

namespace HomeCortex

/-! ### Records kept once -/

/-- The first record of each identity: no identity twice, and every one kept. -/
theorem uniqueEntities_ids (entities : List Entity) :
    ((uniqueEntities entities).map Entity.id).Nodup ∧
      ∀ id, id ∈ (uniqueEntities entities).map Entity.id ↔ id ∈ entities.map Entity.id := by
  have hfold : ∀ (rest unique : List Entity), (unique.map Entity.id).Nodup →
      let kept := rest.foldl (fun unique entity =>
        if (unique.map Entity.id).contains entity.id then unique else unique ++ [entity]) unique
      (kept.map Entity.id).Nodup ∧
        ∀ id, id ∈ kept.map Entity.id ↔ id ∈ unique.map Entity.id ∨ id ∈ rest.map Entity.id := by
    intro rest
    induction rest with
    | nil => exact fun unique hunique => ⟨hunique, fun id => by simp⟩
    | cons entity rest ih =>
        intro unique hunique
        rw [List.foldl_cons]
        by_cases hseen : entity.id ∈ unique.map Entity.id
        · rw [if_pos (List.contains_iff_mem.2 hseen)]
          refine ⟨(ih unique hunique).1, fun id => ?_⟩
          rw [(ih unique hunique).2 id, List.map_cons, List.mem_cons]
          constructor
          · exact fun h => h.imp_right Or.inr
          · rintro (h | rfl | h)
            · exact .inl h
            · exact .inl hseen
            · exact .inr h
        · rw [if_neg (by rwa [List.contains_iff_mem])]
          have hnext : ((unique ++ [entity]).map Entity.id).Nodup := by
            rw [List.map_append, List.map_singleton]
            exact List.nodup_append.2 ⟨hunique, List.nodup_singleton _, fun a ha b hb => by
              rintro rfl
              exact hseen (List.mem_singleton.1 hb ▸ ha)⟩
          refine ⟨(ih _ hnext).1, fun id => ?_⟩
          rw [(ih _ hnext).2 id, List.map_append, List.mem_append, List.map_singleton,
            List.mem_singleton, List.map_cons, List.mem_cons, or_assoc]
  have h := hfold entities [] List.nodup_nil
  exact ⟨h.1, fun id => by simpa [uniqueEntities] using h.2 id⟩

namespace HouseholdFactEngine

variable (engine : HouseholdFactEngine)

/-! ### The graph of hosting edges -/

/-- The current edges that a hosting read of a record selects. -/
def hostingEdges (relation : String) (direction : Option Direction) (entity_id : String) :
    List GraphEdge :=
  match engine.schema.catalog.edge_registry.resolve relation with
  | .ok resolved => engine.graph.relationships resolved.schema.id
      (storedDirection resolved (idType entity_id) direction) entity_id
  | .error _ => []

/-- A current hosting edge leads from the record `host` to the stored space `space`. -/
def Hosts (host space : String) : Prop :=
  ∃ relation direction, engine.schema.physicalRelation "hosted_space" = some (relation, direction) ∧
    (∃ edge ∈ engine.hostingEdges relation direction host, edge.far host = space) ∧
    (engine.graph.record space).isSome = true ∧ idType space = "space"

/-- The hosting read of a record answers, and it hosts at most `max_records` spaces. -/
def HostingRead (host : String) : Prop :=
  ∀ relation direction, engine.schema.physicalRelation "hosted_space" = some (relation, direction) →
    engine.graph.fails (.relationships host relation direction) = false ∧
      (engine.hostingEdges relation direction host).length ≤ engine.max_records

/-- The identities of the spaces hosted at a record, in the order of its edges. -/
def hostedIds (relation : String) (direction : Option Direction) (host : String) : List String :=
  ((engine.hostingEdges relation direction host).map fun edge => edge.far host).filter fun id =>
    (engine.graph.record id).isSome && idType id == "space"

variable {engine} {relation : String} {direction : Option Direction}

theorem mem_hostedIds (h : engine.schema.physicalRelation "hosted_space" = some (relation, direction))
    {host space : String} : space ∈ engine.hostedIds relation direction host ↔
      engine.Hosts host space := by
  unfold hostedIds Hosts
  rw [List.mem_filter, List.mem_map, Bool.and_eq_true, beq_iff_eq]
  constructor
  · exact fun hmem => ⟨relation, direction, h, hmem⟩
  · rintro ⟨relation', direction', h', hmem⟩
    obtain ⟨rfl, rfl⟩ := Prod.mk.inj (Option.some.inj (h.symm.trans h'))
    exact hmem

/-- The relation of a semantic relation is registered under its own name. -/
theorem physicalRelation_resolves {semantic : String}
    (h : engine.schema.physicalRelation semantic = some (relation, direction)) :
    ∃ schema : EdgeSchema, schema.id = relation ∧
      engine.schema.catalog.edge_registry.resolve relation = .ok ⟨schema, false⟩ := by
  unfold SemanticSchemaRegistry.physicalRelation at h
  obtain ⟨name, -, h⟩ := Option.bind_eq_some_iff.1 h
  obtain ⟨resolved, hresolved, h⟩ := Option.bind_eq_some_iff.1 h
  obtain ⟨definition, -, h⟩ := Option.bind_eq_some_iff.1 h
  obtain ⟨rfl, -⟩ := Prod.mk.inj (Option.some.inj h)
  have hok : engine.schema.catalog.edge_registry.resolve name = .ok resolved := by
    cases hname : engine.schema.catalog.edge_registry.resolve name with
    | error error =>
        rw [hname] at hresolved
        cases hresolved
    | ok other =>
        rw [hname] at hresolved
        exact congrArg _ (Option.some.inj hresolved)
  have hmem := (engine.schema.catalog.edge_registry.resolve_eq_ok hok).1
  exact ⟨resolved.schema, rfl, engine.schema.catalog.edge_registry.resolve_of_mem hmem⟩

/-- **A hosting read that answers returns every hosting edge of the record.** -/
theorem relationEdges_hosting
    (h : engine.schema.physicalRelation "hosted_space" = some (relation, direction))
    {host : String} (hread : engine.HostingRead host) :
    ∃ schema : EdgeSchema, engine.relationEdges host relation direction
      = .ok ((engine.hostingEdges relation direction host).map
          (engine.graph.edgeRow schema host)) := by
  obtain ⟨schema, hid, hresolve⟩ := physicalRelation_resolves h
  obtain ⟨hanswers, hlength⟩ := hread relation direction h
  refine ⟨schema, ?_⟩
  unfold hostingEdges at hlength ⊢
  rw [hresolve] at hlength ⊢
  dsimp only at hlength ⊢
  unfold relationEdges HouseholdGraph.getRelationships
  rw [hresolve]
  dsimp only
  rw [hanswers, if_neg Bool.false_ne_true, List.take_of_length_le (by omega)]
  change (if engine.max_records < _ then _ else _) = _
  rw [if_neg (by rw [List.length_map]; omega)]
  rfl

/-- The rows that lead to no space have none at their far end. -/
theorem filterMap_hosted (edges : List Edge) :
    (edges.filter fun edge => (hostedChild? edge).isSome).filterMap hostedChild?
      = edges.filterMap hostedChild? := by
  rw [List.filterMap_filter]
  refine List.filterMap_congr fun edge _ => ?_
  cases hostedChild? edge <;> rfl

/-- The spaces among the rows of a hosting read. -/
theorem hostedChild_ids (schema : EdgeSchema) (host : String) (edges : List GraphEdge) :
    ((edges.map (engine.graph.edgeRow schema host)).filterMap hostedChild?).map Entity.id
      = (edges.map fun edge => edge.far host).filter fun id =>
          (engine.graph.record id).isSome && idType id == "space" := by
  induction edges with
  | nil => rfl
  | cons edge edges ih =>
      have hchild : hostedChild? (engine.graph.edgeRow schema host edge)
          = ((engine.graph.entity? (edge.far host)).map entitySummary).filter fun child =>
              entityType child = "space" := rfl
      rw [List.map_cons, List.map_cons, List.filterMap_cons, hchild]
      unfold HouseholdGraph.entity?
      cases hrecord : engine.graph.record (edge.far host) with
      | none =>
          rw [List.filter_cons_of_neg (by simp [hrecord])]
          exact ih
      | some fields =>
          have htype : entityType (entitySummary ⟨edge.far host, fields⟩)
              = idType (edge.far host) := rfl
          by_cases hspace : idType (edge.far host) = "space"
          · rw [List.filter_cons_of_pos (by simp [hrecord, hspace])]
            simp only [Option.map_some, Option.filter_some, htype, hspace, decide_true, if_true,
              List.map_cons, ih]
            rfl
          · rw [List.filter_cons_of_neg (by simp [hspace])]
            simp only [Option.map_some, Option.filter_some, htype, hspace, decide_false,
              Bool.false_eq_true, if_false, ih]

/-! ### The walk as a traversal -/

/-- The identities of the walk. -/
def hostingView (state : Hosting) : DepthFirst.State String :=
  ⟨state.visited, state.active, state.stack.map fun entry => (entry.1.id, entry.2)⟩

/-- The spaces collected are those hosted at the records visited. -/
def Gathered (engine : HouseholdFactEngine) (relation : String) (direction : Option Direction)
    (state : Hosting) : Prop :=
  ∀ id, id ∈ state.descendants.map Entity.id ↔
    ∃ host ∈ state.visited, id ∈ engine.hostedIds relation direction host

/-- A visit enters the record's identity. -/
theorem hostingView_visit {state : Hosting} {entity : Entity} {stack : List (Entity × Bool)}
    {schema : EdgeSchema} :
    hostingView (state.visit entity stack ((engine.hostingEdges relation direction entity.id).map
        (engine.graph.edgeRow schema entity.id)))
      = ⟨entity.id :: state.visited, entity.id :: state.active,
          DepthFirst.entered (engine.hostedIds relation direction) entity.id
            (stack.map fun entry => (entry.1.id, entry.2))⟩ := by
  have hids := engine.hostedChild_ids schema entity.id
    (engine.hostingEdges relation direction entity.id)
  unfold hostingView Hosting.visit DepthFirst.entered
  dsimp only
  rw [filterMap_hosted]
  simp only [List.map_append, List.map_cons, List.map_map, Function.comp_def]
  congr 2
  rw [hostedIds, ← hids, List.map_reverse, List.map_reverse, List.map_map, Function.comp_def]

theorem gathered_visit {state : Hosting} {entity : Entity} {stack : List (Entity × Bool)}
    {schema : EdgeSchema} (h : Gathered engine relation direction state) :
    Gathered engine relation direction (state.visit entity stack
      ((engine.hostingEdges relation direction entity.id).map
        (engine.graph.edgeRow schema entity.id))) := by
  intro id
  have hids := engine.hostedChild_ids schema entity.id
    (engine.hostingEdges relation direction entity.id)
  unfold Hosting.visit
  dsimp only
  rw [filterMap_hosted, List.map_append, List.mem_append, h id, hids]
  change _ ∨ id ∈ engine.hostedIds relation direction entity.id ↔ _
  constructor
  · rintro (⟨host, hhost, hid⟩ | hid)
    · exact ⟨host, List.mem_cons_of_mem _ hhost, hid⟩
    · exact ⟨entity.id, List.mem_cons_self, hid⟩
  · rintro ⟨host, hhost, hid⟩
    rcases List.mem_cons.1 hhost with rfl | hhost
    · exact .inr hid
    · exact .inl ⟨host, hhost, hid⟩

/-- The failure of `_hosted_descendants` on a cycle. -/
def hostingCycle : FactFailure :=
  { status := .computationImpossible, missing := ["hosting_cycle"] }

/-- The nodes a walk from `parent` can meet. -/
def hostingNodes (engine : HouseholdFactEngine) (relation parent : String) : List String :=
  parent :: (engine.graph.edges relation).flatMap fun edge => [edge.source, edge.target]

theorem hostedIds_subset (h : engine.schema.physicalRelation "hosted_space"
    = some (relation, direction)) {parent host space : String}
    (hspace : space ∈ engine.hostedIds relation direction host) :
    space ∈ hostingNodes engine relation parent := by
  obtain ⟨schema, rfl, hresolve⟩ := physicalRelation_resolves h
  unfold hostedIds hostingEdges at hspace
  rw [hresolve] at hspace
  obtain ⟨edge, hedge, rfl⟩ := List.mem_map.1 (List.mem_filter.1 hspace).1
  have hmem := (List.mem_filter.1 hedge).1
  refine List.mem_cons_of_mem _ (List.mem_flatMap.2 ⟨edge, hmem, ?_⟩)
  unfold GraphEdge.far
  split
  · exact List.mem_cons_of_mem _ List.mem_cons_self
  · exact List.mem_cons_self

/-- **The loop is the traversal**, and `potential` bounds its rounds: it ends with the
spaces hosted at the visited records, or at a record it is inside of. -/
theorem hostingLoop_traverses (h : engine.schema.physicalRelation "hosted_space"
    = some (relation, direction)) {parent : String}
    (hread : ∀ id, DepthFirst.Reach (engine.hostedIds relation direction) parent id →
      engine.HostingRead id) :
    ∀ {fuel : Nat} {state : Hosting},
      Relation.ReflTransGen (DepthFirst.ClearStep (engine.hostedIds relation direction))
        (DepthFirst.start parent) (hostingView state) →
      (∀ entry ∈ (hostingView state).stack, entry.1 ∈ hostingNodes engine relation parent) →
      Gathered engine relation direction state →
      DepthFirst.potential (hostingNodes engine relation parent) engine.max_records
        (hostingView state) < fuel →
      ∃ final, Relation.ReflTransGen (DepthFirst.ClearStep (engine.hostedIds relation direction))
          (DepthFirst.start parent) (hostingView final) ∧
        (engine.hostingLoop relation direction fuel state = .ok final ∧ final.stack = [] ∧
            Gathered engine relation direction final ∨
          engine.hostingLoop relation direction fuel state = raiseFailure hostingCycle ∧
            ∃ entity stack, final.stack = (entity, false) :: stack ∧ entity.id ∈ final.active) := by
  intro fuel
  induction fuel with
  | zero => exact fun _ _ _ hfuel => absurd hfuel (Nat.not_lt_zero _)
  | succ fuel ih =>
      intro state hrun hnodes hgathered hfuel
      have hclosed : ∀ x ∈ hostingNodes engine relation parent,
          ∀ y ∈ engine.hostedIds relation direction x, y ∈ hostingNodes engine relation parent :=
        fun x _ y hy => hostedIds_subset h hy
      -- one round is one step of the traversal
      have hround : ∀ next : Hosting, (hostingView state).Clear →
          DepthFirst.Step (engine.hostedIds relation direction) (hostingView state)
            (hostingView next) →
          Gathered engine relation direction next →
          (∀ x, next.visited = x :: state.visited →
            (engine.hostedIds relation direction x).length ≤ engine.max_records) →
          ∃ final, Relation.ReflTransGen
              (DepthFirst.ClearStep (engine.hostedIds relation direction))
              (DepthFirst.start parent) (hostingView final) ∧
            (engine.hostingLoop relation direction fuel next = .ok final ∧ final.stack = [] ∧
                Gathered engine relation direction final ∨
              engine.hostingLoop relation direction fuel next = raiseFailure hostingCycle ∧
                ∃ entity stack, final.stack = (entity, false) :: stack ∧
                  entity.id ∈ final.active) := by
        intro next hclear hstep hgathered hwidth
        have hlt := DepthFirst.potential_lt hstep hnodes hwidth
        exact ih (hrun.tail ⟨hclear, hstep⟩) (DepthFirst.stack_subset hstep hclosed hnodes)
          hgathered (by omega)
      obtain ⟨descendants, edges, visited, active, stack⟩ := state
      unfold hostingLoop
      cases stack with
      | nil => exact ⟨_, hrun, .inl ⟨rfl, rfl, hgathered⟩⟩
      | cons entry stack =>
          obtain ⟨entity, leaving⟩ := entry
          cases leaving with
          | true =>
              refine hround ⟨descendants, edges, visited, active.erase entity.id, stack⟩ ?_
                (.leave _ _ _ _) hgathered ?_
              · rintro x rest htop
                cases htop
              · exact fun x hx => absurd hx.symm (List.cons_ne_self _ _)
          | false =>
              dsimp only
              by_cases hactive : entity.id ∈ active
              · rw [if_pos (List.contains_iff_mem.2 hactive)]
                exact ⟨_, hrun, .inr ⟨rfl, entity, stack, rfl, hactive⟩⟩
              rw [if_neg (by rwa [List.contains_iff_mem])]
              have hclear : (hostingView ⟨descendants, edges, visited, active,
                  (entity, false) :: stack⟩).Clear := by
                rintro x rest htop
                cases htop
                exact hactive
              by_cases hseen : entity.id ∈ visited
              · rw [if_pos (List.contains_iff_mem.2 hseen)]
                refine hround ⟨descendants, edges, visited, active, stack⟩ hclear
                  (.skip _ _ _ _ hseen) hgathered ?_
                exact fun x hx => absurd hx.symm (List.cons_ne_self _ _)
              · rw [if_neg (by rwa [List.contains_iff_mem])]
                have hreach : DepthFirst.Reach (engine.hostedIds relation direction) parent
                    entity.id :=
                  (DepthFirst.invariant_start.steps (DepthFirst.run_of_clearRun hrun)).stack_reach
                    _ List.mem_cons_self
                obtain ⟨schema, hedges⟩ := relationEdges_hosting h (hread _ hreach)
                rw [hedges]
                refine hround _ hclear ?_ (gathered_visit hgathered) ?_
                · rw [hostingView_visit]
                  exact .enter _ _ _ _ hseen
                · intro x hx
                  obtain ⟨rfl, -⟩ := List.cons.inj hx
                  have hlength := ((hread _ hreach) relation direction h).2
                  exact (List.length_filter_le _ _).trans (by rwa [List.length_map])

theorem hostedIds_hosts (h : engine.schema.physicalRelation "hosted_space"
    = some (relation, direction)) :
    (fun host space => space ∈ engine.hostedIds relation direction host) = engine.Hosts := by
  funext host space
  exact propext (mem_hostedIds h)

/-- The rounds of the loop suffice. -/
theorem potential_start (engine : HouseholdFactEngine) (relation : String) (parent : Entity) :
    DepthFirst.potential (hostingNodes engine relation parent.id) engine.max_records
        (hostingView ⟨[], [], [], [], [(parent, false)]⟩) < engine.hostingRounds relation := by
  have hlength : (hostingNodes engine relation parent.id).length
      = 2 * (engine.graph.edges relation).length + 1 := by
    simp [hostingNodes, List.length_flatMap, Nat.mul_comm]
  have hfilter := List.length_filter_le (fun x => decide (x ∉ ([] : List String)))
    (hostingNodes engine relation parent.id)
  have hmul := Nat.mul_le_mul_left (engine.max_records + 1) hfilter
  rw [hlength] at hmul
  unfold DepthFirst.potential hostingRounds hostingView
  simp only [List.map_cons, List.map_nil, List.length_cons, List.length_nil]
  rw [Nat.mul_comm (2 * _ + 1)]
  omega

variable (engine)

/-- A cycle of hosted spaces is reachable from a record. -/
def ReachesHostingCycle (host : String) : Prop :=
  ∃ id, Relation.ReflTransGen engine.Hosts host id ∧ Relation.TransGen engine.Hosts id id

/-- **Expansion of a collapsed container.**  On a graph whose hosting reads answer in
full, `_hosted_descendants` ends: it fails with `hosting_cycle` exactly when a cycle of
hosted spaces is reachable from the container, and otherwise returns every space hosted
at it, directly or not, once, and never the container. -/
theorem hostedDescendants_spec (parent : Entity)
    (hread : ∀ id, Relation.ReflTransGen engine.Hosts parent.id id → engine.HostingRead id) :
    (engine.hostedDescendants parent = raiseFailure hostingCycle ↔
        engine.ReachesHostingCycle parent.id) ∧
      (¬ engine.ReachesHostingCycle parent.id →
        ∃ spaces edges, engine.hostedDescendants parent = .ok (spaces, edges) ∧
          (spaces.map Entity.id).Nodup ∧
          (∀ id, id ∈ spaces.map Entity.id ↔ Relation.TransGen engine.Hosts parent.id id) ∧
          parent.id ∉ spaces.map Entity.id) := by
  cases h : engine.schema.physicalRelation "hosted_space" with
  | none =>
      have hnone : ∀ host space, ¬ engine.Hosts host space := by
        rintro host space ⟨relation, direction, hsome, -⟩
        rw [h] at hsome
        cases hsome
      have hcycle : ∀ host space, ¬ Relation.TransGen engine.Hosts host space := by
        intro host space hpath
        obtain ⟨next, hnext, -⟩ := Relation.TransGen.head'_iff.1 hpath
        exact hnone host next hnext
      have hresult : engine.hostedDescendants parent = .ok ([], []) := by
        unfold hostedDescendants
        rw [h]
      rw [hresult]
      refine ⟨⟨fun hfail => (by cases hfail), fun ⟨id, _, hid⟩ => absurd hid (hcycle id id)⟩, ?_⟩
      exact fun _ => ⟨[], [], rfl, List.nodup_nil,
        fun id => ⟨fun hid => (by cases hid), fun hid => absurd hid (hcycle _ _)⟩, fun hid => by
          cases hid⟩
  | some hosting =>
      obtain ⟨relation, direction⟩ := hosting
      have hhosts := hostedIds_hosts h
      have hreach : ∀ id, DepthFirst.Reach (engine.hostedIds relation direction) parent.id id ↔
          Relation.ReflTransGen engine.Hosts parent.id id := by
        intro id
        unfold DepthFirst.Reach
        rw [hhosts]
      have hnodes : ∀ entry ∈ (hostingView ⟨[], [], [], [], [(parent, false)]⟩).stack,
          entry.1 ∈ hostingNodes engine relation parent.id := by
        intro entry hentry
        rw [List.mem_singleton.1 hentry]
        exact List.mem_cons_self
      have hgathered : Gathered engine relation direction ⟨[], [], [], [], [(parent, false)]⟩ :=
        fun id => ⟨fun hid => (by cases hid), fun ⟨_, hhost, _⟩ => by cases hhost⟩
      obtain ⟨final, hrun, hloop⟩ := hostingLoop_traverses h
        (fun id hid => hread id ((hreach id).1 hid)) .refl hnodes hgathered
        (potential_start engine relation parent)
      rcases hloop with ⟨hok, hdone, hgathered⟩ | ⟨hfail, entity, stack, htop, hactive⟩
      · -- the walk ended: no node was entered from inside
        have hdone' : (hostingView final).stack = [] := by
          unfold hostingView
          rw [hdone]
          rfl
        have hacyclic : ¬ engine.ReachesHostingCycle parent.id := by
          rintro ⟨id, hid, hcycle⟩
          rw [← hhosts] at hcycle
          exact DepthFirst.acyclic_of_done hrun hdone' id ((hreach id).2 hid) hcycle
        have hresult : engine.hostedDescendants parent
            = .ok (uniqueEntities final.descendants, final.edges) := by
          unfold hostedDescendants
          rw [h]
          dsimp only
          rw [hok]
          rfl
        have hspaces : ∀ id, id ∈ (uniqueEntities final.descendants).map Entity.id ↔
            Relation.TransGen engine.Hosts parent.id id := by
          intro id
          rw [(uniqueEntities_ids _).2 id, hgathered id, Relation.TransGen.tail'_iff]
          refine exists_congr fun host => and_congr ?_ (mem_hostedIds h)
          rw [← hreach host]
          exact DepthFirst.mem_visited_iff (DepthFirst.run_of_clearRun hrun) hdone'
        rw [hresult]
        refine ⟨⟨fun hfail => (by cases hfail), fun hcycle => absurd hcycle hacyclic⟩, fun _ =>
          ⟨_, _, rfl, (uniqueEntities_ids _).1, hspaces, fun hself => ?_⟩⟩
        exact hacyclic ⟨parent.id, .refl, (hspaces _).1 hself⟩
      · have hcycle : engine.ReachesHostingCycle parent.id := by
          have htop' : (hostingView final).stack
              = (entity.id, false) :: stack.map fun entry => (entry.1.id, entry.2) := by
            unfold hostingView
            rw [htop]
            rfl
          have hentity := (DepthFirst.invariant_start.steps
            (DepthFirst.run_of_clearRun hrun)).stack_reach (entity.id, false)
              (by rw [htop']; exact List.mem_cons_self)
          have hback := DepthFirst.cycle_of_active (DepthFirst.inside_of_run hrun) htop' hactive
          rw [hhosts] at hback
          exact ⟨entity.id, (hreach _).1 hentity, hback⟩
        refine ⟨⟨fun _ => hcycle, fun _ => ?_⟩, fun hnone => absurd hcycle hnone⟩
        unfold hostedDescendants
        rw [h]
        dsimp only
        rw [hfail]
        rfl

/-! ### A cabinet -/

/-- A cabinet with two compartments that share a drawer. -/
def cabinetGraph : HouseholdGraph where
  tables := ["item", "space"]
  ids table := if table = "item" then ["item:cabinet"] else if table = "space" then
    ["space:drawer", "space:left", "space:right"] else []
  record id := if id ∈ ["item:cabinet", "space:drawer", "space:left", "space:right"] then
    some [("name", .str "part")] else none
  edges relation := if relation = "hosted_by" then
    [⟨"space:left", "item:cabinet", []⟩, ⟨"space:right", "item:cabinet", []⟩,
      ⟨"space:drawer", "space:left", []⟩, ⟨"space:drawer", "space:right", []⟩] else []
  named _ records := records
  fails _ := false
  record_named := by
    have hcolon : ∀ id ∈ ["item:cabinet", "space:drawer", "space:left", "space:right"],
        ':' ∈ id.toList := by
      decide
    intro id fields h
    split at h
    case isTrue hmem => exact hcolon id hmem
    case isFalse => cases h
  ids_typed := by
    intro table htable id hid
    rcases List.mem_cons.1 htable with rfl | htable
    · have htyped : ∀ id ∈ ["item:cabinet"], idType id = "item" := by decide +kernel
      exact htyped id hid
    · obtain rfl := List.mem_singleton.1 htable
      have htyped : ∀ id ∈ ["space:drawer", "space:left", "space:right"],
          idType id = "space" := by decide +kernel
      exact htyped id hid
  named_subset _ _ := List.Subset.refl _

theorem hostedBy_edge : ∃ edge ∈ EdgeSchemaRegistry.deployed.schemas, edge.id = "hosted_by" ∧
    edge.from_types = ["space"] ∧ edge.to_types = ["item", "space"] := by
  decide +kernel

/-- The engine over the cabinet, as it is configured by default. -/
def cabinetEngine : HouseholdFactEngine where
  graph := cabinetGraph
  schema := {
    catalog := {
      entities := []
      relations := [("hosted_by", ⟨["space"], ["item", "space"], [], []⟩)]
      edge_registry := .deployed
      relations_declared := oneRelation_declared hostedBy_edge }
    ontology := { base_relations := [("hosted_space", "hosts_space")], validated := by decide } }
  max_records := 25
  bounded := defaultRecords_bounded

/-- The cabinet is expanded although its compartments share the drawer. -/
theorem cabinet_hostedDescendants :
    (cabinetEngine.hostedDescendants ⟨"item:cabinet", []⟩ = raiseFailure hostingCycle ↔
        cabinetEngine.ReachesHostingCycle "item:cabinet") ∧
      (¬ cabinetEngine.ReachesHostingCycle "item:cabinet" →
        ∃ spaces edges, cabinetEngine.hostedDescendants ⟨"item:cabinet", []⟩ = .ok (spaces, edges) ∧
          (spaces.map Entity.id).Nodup ∧
          (∀ id, id ∈ spaces.map Entity.id ↔
            Relation.TransGen cabinetEngine.Hosts "item:cabinet" id) ∧
          "item:cabinet" ∉ spaces.map Entity.id) := by
  refine cabinetEngine.hostedDescendants_spec ⟨"item:cabinet", []⟩ fun id _ => ?_
  intro relation direction _
  refine ⟨rfl, ?_⟩
  have hedges : ∀ relation, (cabinetGraph.edges relation).length ≤ 4 := by
    intro relation
    change (if _ then _ else _ : List GraphEdge).length ≤ 4
    split <;> decide
  unfold hostingEdges
  split
  case h_1 resolved _ =>
    exact ((List.length_filter_le _ _).trans (hedges _)).trans (by decide)
  case h_2 => decide

end HouseholdFactEngine
end HomeCortex
