/-
# Membership of a household by containment

The walk of `_belongs_to_household` follows the scope parents of each record's own type,
leaves out the records of its own path and stops after twelve of them, so it ends on
cyclic containment as well.  Where no fan-out is cut off, it answers, and answers yes
exactly when at most twelve edges lead to the household.  A cut-off fan-out that it
meets ends it: the answer is then no answer, and never the wrong one.
-/

import HomeCortex.Facts.NamedScope

namespace HomeCortex

open BoundedWalk

namespace HouseholdFactEngine

variable (engine : HouseholdFactEngine)

/-! ### Fan-outs -/

/-- How many current edges of a relation lead out of a record; those of a symmetric
relation lead both ways. -/
def fanOut (schema : EdgeSchema) (entity_id : String) : Nat :=
  (engine.graph.edges schema.id).countP fun edge =>
    edge.source == entity_id || (schema.symmetric && edge.target == entity_id)

/-- More edges of one scope-parent relation lead out of the record than a read returns. -/
def Overfull (entity_id relation : String) : Prop :=
  ∃ schema ∈ engine.schema.catalog.edge_registry.schemas, schema.scope_parent = true ∧
    schema.from_types.contains (idType entity_id) = true ∧ schema.id = relation ∧
    engine.max_records < engine.fanOut schema entity_id

/-- Every read of relationships answers. -/
def Available : Prop :=
  ∀ entity_id relation direction, engine.graph.fails (.relationships entity_id relation direction)
    = false

/-- The failure of a read that is cut off. -/
def incomplete (relation : String) : FactFailure :=
  { status := .collectionIncomplete, missing := [relation] }

variable {engine}

theorem length_relationships (schema : EdgeSchema) (entity_id : String) :
    (engine.graph.relationships schema.id
      (storedDirection ⟨schema, false⟩ (idType entity_id) (some .out)) entity_id).length
        = engine.fanOut schema entity_id := by
  unfold HouseholdGraph.relationships fanOut storedDirection
  rw [← List.countP_eq_length_filter]
  cases schema.symmetric with
  | false => exact List.countP_congr fun edge _ => by simp [GraphEdge.touches]
  | true => exact List.countP_congr fun edge _ => by simp [GraphEdge.touches]

/-- **A scope read**: it fails, it is cut off, or it returns all edges. -/
theorem relationEdges_scope {schema : EdgeSchema}
    (hschema : schema ∈ engine.schema.catalog.edge_registry.schemas) (entity_id : String) :
    engine.relationEdges entity_id schema.id (some .out) =
      if engine.graph.fails (.relationships entity_id schema.id (some .out)) then
        raiseFailure { status := .computationImpossible }
      else if engine.max_records < engine.fanOut schema entity_id then
        raiseFailure (incomplete schema.id)
      else .ok ((engine.graph.relationships schema.id
        (storedDirection ⟨schema, false⟩ (idType entity_id) (some .out)) entity_id).map
          (engine.graph.edgeRow schema entity_id)) := by
  unfold relationEdges HouseholdGraph.getRelationships
  rw [EdgeSchemaRegistry.resolve_of_mem hschema]
  dsimp only
  by_cases hfails : engine.graph.fails (.relationships entity_id schema.id (some .out)) = true
  · rw [if_pos hfails, if_pos hfails]
    rfl
  · rw [if_neg hfails, if_neg hfails]
    have hlength := @length_relationships engine schema entity_id
    change (if engine.max_records < List.length (List.map _ (List.take _ _)) then _ else _) = _
    rw [List.length_map, List.length_take, hlength]
    by_cases hover : engine.max_records < engine.fanOut schema entity_id
    · rw [if_pos (by omega), if_pos hover]
      rfl
    · rw [if_neg (by omega), if_neg hover, List.take_of_length_le (by omega)]
      rfl

/-- A scope read fails where it is not answered or cut off. -/
theorem relationEdges_scope_eq_error {entity_id relation : String} {error : Raised}
    (hrelation : relation ∈ engine.scopeParentRelations (idType entity_id))
    (h : engine.relationEdges entity_id relation (some .out) = .error error) :
    engine.graph.fails (.relationships entity_id relation (some .out)) = true ∧
        error = .failure { status := .computationImpossible } ∨
      engine.Overfull entity_id relation ∧ error = .failure (incomplete relation) := by
  obtain ⟨schema, hschema, hparent, hfrom, rfl⟩ := engine.mem_scopeParentRelations.1 hrelation
  rw [relationEdges_scope hschema] at h
  split at h
  case isTrue hfails => exact .inl ⟨hfails, (Except.error.inj h).symm⟩
  case isFalse =>
    split at h
    case isTrue hover =>
      exact .inr ⟨⟨schema, hschema, hparent, hfrom, rfl, hover⟩, (Except.error.inj h).symm⟩
    case isFalse => cases h

/-- A read that is cut off returns nothing. -/
theorem Overfull.relationEdges_ne_ok {entity_id relation : String}
    (h : engine.Overfull entity_id relation) (edges : List Edge) :
    engine.relationEdges entity_id relation (some .out) ≠ .ok edges := by
  obtain ⟨schema, hschema, -, -, rfl, hover⟩ := h
  rw [relationEdges_scope hschema, if_pos hover]
  split <;> exact fun hread => by cases hread

theorem Overfull.mem_scopeParentRelations {entity_id relation : String}
    (h : engine.Overfull entity_id relation) :
    relation ∈ engine.scopeParentRelations (idType entity_id) := by
  obtain ⟨schema, hschema, hparent, hfrom, hid, -⟩ := h
  exact engine.mem_scopeParentRelations.2 ⟨schema, hschema, hparent, hfrom, hid⟩

/-! ### The reads of a walk -/

/-- A walk fails in a scope read of a record that it has reached. -/
theorem belongsToHousehold_error_read {household : String} :
    ∀ {budget : Nat} {visited : List String} {entity_id : String} {error : Raised},
      engine.belongsToHousehold household (budget + 1) visited entity_id = .error error →
      ∃ reached relation, Within engine.ScopeParent budget entity_id reached ∧
        relation ∈ engine.scopeParentRelations (idType reached) ∧
        engine.relationEdges reached relation (some .out) = .error error := by
  intro budget
  induction budget with
  | zero =>
      intro visited entity_id error h
      unfold belongsToHousehold at h
      split at h
      · cases h
      split at h
      · cases h
      obtain ⟨relation, hrelation, h⟩ := Except.anyM_eq_error h
      cases hedges : engine.relationEdges entity_id relation (some .out) with
      | error other =>
          rw [hedges] at h
          obtain rfl : other = error := Except.error.inj h
          exact ⟨entity_id, relation, rfl, hrelation, hedges⟩
      | ok edges =>
          -- with no budget left the parents are compared and not read
          rw [hedges] at h
          obtain ⟨parent, -, h⟩ := Except.anyM_eq_error h
          unfold belongsToHousehold at h
          split at h
          · cases h
          · split at h <;> cases h
  | succ budget ih =>
      intro visited entity_id error h
      unfold belongsToHousehold at h
      split at h
      · cases h
      split at h
      · cases h
      obtain ⟨relation, hrelation, h⟩ := Except.anyM_eq_error h
      cases hedges : engine.relationEdges entity_id relation (some .out) with
      | error other =>
          rw [hedges] at h
          obtain rfl : other = error := Except.error.inj h
          exact ⟨entity_id, relation, Within.refl _, hrelation, hedges⟩
      | ok edges =>
          rw [hedges] at h
          obtain ⟨parent, hparent, h⟩ := Except.anyM_eq_error h
          obtain ⟨reached, read, hwalk, hread⟩ := ih h
          obtain ⟨schema, hschema, hscope, hfrom, rfl⟩ :=
            engine.mem_scopeParentRelations.1 hrelation
          obtain ⟨hedge, hstored⟩ := (engine.mem_scopeEdges hschema hedges).1 hparent
          exact ⟨reached, read,
            .inr ⟨parent, ⟨schema, hschema, hscope, hfrom, hedge, hstored⟩, hwalk⟩, hread⟩

/-- A walk that does not meet the household has read every record of its path. -/
theorem belongsToHousehold_false_reads {household : String} {budget : Nat} {visited : List String}
    {entity_id : String}
    (h : engine.belongsToHousehold household (budget + 1) visited entity_id = .ok false)
    (hfresh : entity_id ∉ visited) :
    ∀ relation ∈ engine.scopeParentRelations (idType entity_id), ∃ edges,
      engine.relationEdges entity_id relation (some .out) = .ok edges ∧
      ∀ parent ∈ edges.filterMap fun edge => edge.relatedId,
        engine.belongsToHousehold household budget (entity_id :: visited) parent = .ok false := by
  unfold belongsToHousehold at h
  by_cases hhome : entity_id = household
  · rw [if_pos hhome] at h
    cases h
  rw [if_neg hhome, if_neg (fun hmem => hfresh (List.contains_iff_mem.1 hmem))] at h
  intro relation hrelation
  obtain ⟨edges, hedges, hrest⟩ := Except.bind_eq_ok.1 (Except.anyM_eq_ok_false h relation hrelation)
  exact ⟨edges, hedges, Except.anyM_eq_ok_false hrest⟩

/-- **A walk that does not meet the household has read all it could reach**, one edge
short of its bound, by a path without repetition. -/
theorem belongsToHousehold_false_reaches {household reached : String} :
    ∀ {budget : Nat} {visited : List String} {entity_id : String},
      engine.belongsToHousehold household (budget + 1) visited entity_id = .ok false →
      Avoiding engine.ScopeParent budget visited entity_id reached → reached ∉ visited →
      ∀ relation ∈ engine.scopeParentRelations (idType reached), ∃ edges,
        engine.relationEdges reached relation (some .out) = .ok edges := by
  intro budget
  induction budget with
  | zero =>
      rintro visited entity_id h rfl hfresh relation hrelation
      obtain ⟨edges, hedges, -⟩ := belongsToHousehold_false_reads h hfresh relation hrelation
      exact ⟨edges, hedges⟩
  | succ budget ih =>
      intro visited entity_id h hwalk hreached
      by_cases hself : reached = entity_id
      · subst hself
        intro relation hrelation
        obtain ⟨edges, hedges, -⟩ := belongsToHousehold_false_reads h hreached relation hrelation
        exact ⟨edges, hedges⟩
      · rcases hwalk with rfl | ⟨hfresh, parent, hstep, hwalk⟩
        · exact absurd rfl hself
        obtain ⟨schema, hschema, hparent, hfrom, hedge, hstored⟩ := hstep
        obtain ⟨edges, hedges, hrest⟩ := belongsToHousehold_false_reads h hfresh schema.id
          (engine.mem_scopeParentRelations.2 ⟨schema, hschema, hparent, hfrom, rfl⟩)
        refine ih (hrest parent ((engine.mem_scopeEdges hschema hedges).2 ⟨hedge, hstored⟩)) hwalk ?_
        exact fun hmem => (List.mem_cons.1 hmem).elim hself hreached

/-! ### Membership -/

/-- An answer is right. -/
theorem belongsToHousehold_iff {household entity_id : String} {found : Bool}
    (h : engine.belongsToHousehold household 12 [] entity_id = .ok found) :
    found = true ↔ Within engine.ScopeParent 12 entity_id household := by
  obtain ⟨hsound, hcomplete⟩ := engine.belongsToHousehold_eq_ok h
  exact ⟨hsound, fun hwalk => hcomplete hwalk.avoiding⟩

/-- A failure comes from a read on the way that is not answered or cut off. -/
theorem belongsToHousehold_error_cause {household entity_id : String} {error : Raised}
    (h : engine.belongsToHousehold household 12 [] entity_id = .error error) :
    ∃ reached relation, Within engine.ScopeParent 11 entity_id reached ∧
      (engine.graph.fails (.relationships reached relation (some .out)) = true ∧
          error = .failure { status := .computationImpossible } ∨
        engine.Overfull reached relation ∧ error = .failure (incomplete relation)) := by
  obtain ⟨reached, relation, hwalk, hrelation, hread⟩ := belongsToHousehold_error_read h
  exact ⟨reached, relation, hwalk, relationEdges_scope_eq_error hrelation hread⟩

/-- With a database that answers, only a cut-off fan-out on the way fails. -/
theorem Available.error_overfull (havailable : engine.Available) {household entity_id : String}
    {error : Raised} (h : engine.belongsToHousehold household 12 [] entity_id = .error error) :
    ∃ reached relation, Within engine.ScopeParent 11 entity_id reached ∧
      engine.Overfull reached relation ∧ error = .failure (incomplete relation) := by
  obtain ⟨reached, relation, hwalk, ⟨hfails, -⟩ | hover⟩ := belongsToHousehold_error_cause h
  · rw [havailable] at hfails
    cases hfails
  · exact ⟨reached, relation, hwalk, hover⟩

variable (engine)

/-- **Membership of a household by containment.**  Without a cut-off fan-out the walk
answers, and the answer is whether at most twelve scope-parent edges lead to the
household.  Every answer is this one; where the walk fails, it met a fan-out that was cut
off (or a read the database did not answer); and with a cut-off fan-out within its bound
it meets the household or ends in `collection_incomplete`. -/
theorem belongsToHousehold_contained (household entity_id : String) :
    (engine.Available → (∀ reached relation, ¬engine.Overfull reached relation) →
      ∃ found, engine.belongsToHousehold household 12 [] entity_id = .ok found ∧
        (found = true ↔ Within engine.ScopeParent 12 entity_id household)) ∧
    (∀ found, engine.belongsToHousehold household 12 [] entity_id = .ok found →
      (found = true ↔ Within engine.ScopeParent 12 entity_id household)) ∧
    (∀ error, engine.belongsToHousehold household 12 [] entity_id = .error error →
      ∃ reached relation, Within engine.ScopeParent 11 entity_id reached ∧
        (engine.graph.fails (.relationships reached relation (some .out)) = true ∧
            error = .failure { status := .computationImpossible } ∨
          engine.Overfull reached relation ∧ error = .failure (incomplete relation))) ∧
    (engine.Available → ∀ reached relation, Within engine.ScopeParent 11 entity_id reached →
      engine.Overfull reached relation →
      engine.belongsToHousehold household 12 [] entity_id = .ok true ∨
        ∃ cut, engine.belongsToHousehold household 12 [] entity_id
          = .error (.failure (incomplete cut))) := by
  refine ⟨fun havailable hnone => ?_, fun found => belongsToHousehold_iff,
    fun error => belongsToHousehold_error_cause, fun havailable reached relation hwalk hover => ?_⟩
  · cases houtcome : engine.belongsToHousehold household 12 [] entity_id with
    | ok found => exact ⟨found, rfl, belongsToHousehold_iff houtcome⟩
    | error error =>
        obtain ⟨reached, relation, -, hover, -⟩ := havailable.error_overfull houtcome
        exact absurd hover (hnone reached relation)
  · cases houtcome : engine.belongsToHousehold household 12 [] entity_id with
    | ok found =>
        cases found with
        | true => exact .inl rfl
        | false =>
            obtain ⟨edges, hedges⟩ := belongsToHousehold_false_reaches houtcome hwalk.avoiding
              (fun h => by cases h) relation hover.mem_scopeParentRelations
            exact absurd hedges (hover.relationEdges_ne_ok edges)
    | error error =>
        obtain ⟨-, cut, -, -, rfl⟩ := havailable.error_overfull houtcome
        exact .inr ⟨cut, rfl⟩

/-! ### Two boxes in each other -/

/-- A box and a bin that stand in each other, and the bin at home. -/
def boxGraph : HouseholdGraph where
  tables := ["address", "item"]
  ids table := if table = "item" then ["item:bin", "item:box"]
    else if table = "address" then ["address:home"] else []
  record id := if id ∈ ["item:bin", "item:box", "address:home"] then
    some [("name", .str "box")] else none
  edges relation := if relation = "located_in" then
    [⟨"item:box", "item:bin", []⟩, ⟨"item:bin", "item:box", []⟩,
      ⟨"item:bin", "address:home", []⟩] else []
  named _ records := records
  fails _ := false
  record_named := by
    have hcolon : ∀ id ∈ ["item:bin", "item:box", "address:home"], ':' ∈ id.toList := by
      decide +kernel
    intro id fields h
    split at h
    case isTrue hmem => exact hcolon id hmem
    case isFalse => cases h
  ids_typed := by
    have htyped : (∀ id ∈ ["item:bin", "item:box"], idType id = "item") ∧
        ∀ id ∈ ["address:home"], idType id = "address" := by
      decide +kernel
    intro table htable id hid
    rcases List.mem_cons.1 htable with rfl | htable
    · exact htyped.2 id hid
    · obtain rfl := List.mem_singleton.1 htable
      exact htyped.1 id hid
  named_subset _ records := List.Subset.refl records

/-- The engine of the home with the box, as it is configured by default. -/
def boxEngine : HouseholdFactEngine := { cupEngine with graph := boxGraph }

theorem boxEngine_not_overfull (reached relation : String) :
    ¬boxEngine.Overfull reached relation := by
  rintro ⟨schema, -, -, -, -, hover⟩
  have hle : boxEngine.fanOut schema reached ≤ (boxGraph.edges schema.id).length :=
    List.countP_le_length
  have hedges : (boxGraph.edges schema.id).length ≤ 3 := by
    unfold boxGraph
    dsimp only
    split <;> decide
  have hmax : boxEngine.max_records = 25 := rfl
  omega

/-- The same home, with reads of one record. -/
def narrowEngine : HouseholdFactEngine :=
  { boxEngine with max_records := 1, bounded := by decide }

/-- Two edges lead out of the bin. -/
theorem narrowEngine_overfull : narrowEngine.Overfull "item:bin" "located_in" :=
  ⟨EdgeSchemaRegistry.locatedIn, by decide +kernel, rfl, by decide +kernel, rfl,
    by decide +kernel⟩

theorem box_scopeParent : narrowEngine.ScopeParent "item:box" "item:bin" :=
  ⟨EdgeSchemaRegistry.locatedIn, by decide +kernel, rfl, by decide +kernel,
    ⟨⟨"item:box", "item:bin", []⟩, by decide +kernel, .inl ⟨rfl, rfl⟩⟩, by decide +kernel⟩

/-- The box is at home, through the bin, and the walk to the school ends; with reads of
one record the bin is cut off. -/
theorem belongsToHousehold_contained_box :
    (∃ found, boxEngine.belongsToHousehold "address:home" 12 [] "item:box" = .ok found ∧
      (found = true ↔ Within boxEngine.ScopeParent 12 "item:box" "address:home")) ∧
    (true = true ↔ Within boxEngine.ScopeParent 12 "item:box" "address:home") ∧
    (false = true ↔ Within boxEngine.ScopeParent 12 "item:box" "address:school") ∧
    (∃ reached relation, Within narrowEngine.ScopeParent 11 "item:box" reached ∧
      (narrowEngine.graph.fails (.relationships reached relation (some .out)) = true ∧
          Raised.failure (incomplete "located_in")
            = .failure { status := .computationImpossible } ∨
        narrowEngine.Overfull reached relation ∧
          Raised.failure (incomplete "located_in") = .failure (incomplete relation))) ∧
    (narrowEngine.belongsToHousehold "address:home" 12 [] "item:box" = .ok true ∨
      ∃ cut, narrowEngine.belongsToHousehold "address:home" 12 [] "item:box"
        = .error (.failure (incomplete cut))) :=
  ⟨(boxEngine.belongsToHousehold_contained "address:home" "item:box").1 (fun _ _ _ => rfl)
      boxEngine_not_overfull,
    (boxEngine.belongsToHousehold_contained "address:home" "item:box").2.1 true
      (by decide +kernel),
    (boxEngine.belongsToHousehold_contained "address:school" "item:box").2.1 false
      (by decide +kernel),
    (narrowEngine.belongsToHousehold_contained "address:home" "item:box").2.2.1 _
      (by decide +kernel),
    (narrowEngine.belongsToHousehold_contained "address:home" "item:box").2.2.2
      (fun _ _ _ => rfl) "item:bin" "located_in" (.inr ⟨_, box_scopeParent, Within.refl 10⟩)
      narrowEngine_overfull⟩

end HouseholdFactEngine

end HomeCortex
