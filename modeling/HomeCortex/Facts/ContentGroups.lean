/-
# Grouped contents

The contents of a collapsed container are listed by the record that directly holds them.  The
groups are built while the last step of a path is taken, before its records are filtered, and
are cut down in two later places: to the records that the step keeps and to those that a
selection shows.  What comes out covers the selection (`execute_groups`): a record is listed in
the group of exactly the containers that a current edge puts it in, of those that the step
reads, and nowhere else.
-/

import HomeCortex.Facts.Answers

namespace HomeCortex

/-- An item is listed in the group of a container. -/
def Lists (groups : List FactContentGroup) (container item : String) : Prop :=
  ∃ group ∈ groups, group.space.id = container ∧ item ∈ group.entities.map Entity.id

/-- The containers of content groups. -/
def containers (groups : List FactContentGroup) : List String :=
  groups.map fun group => group.space.id

namespace HouseholdFactEngine

variable {engine : HouseholdFactEngine}

/-! ### Grouping what was read -/

/-- The far ends of the rows of a read. -/
theorem mem_items {read : SourceEdges} {item : String} :
    item ∈ (read.edges.filterMap fun edge => edge.related_entity).map Entity.id ↔
      ∃ row ∈ read.edges, row.relatedId = some item := by
  simp only [Edge.relatedId, List.mem_map, List.mem_filterMap, Option.map_eq_some_iff]
  constructor
  · rintro ⟨related, ⟨row, hrow, hrelated⟩, rfl⟩
    exact ⟨row, hrow, related, hrelated, rfl⟩
  · rintro ⟨row, hrow, related, hrelated, rfl⟩
    exact ⟨related, ⟨row, hrow, hrelated⟩, rfl⟩

/-- **A read adds its items to the group of its source**, and each source keeps one group. -/
theorem addGroup_spec {groups : List FactContentGroup} (hdistinct : (containers groups).Nodup)
    (read : SourceEdges) : (containers (addGroup groups read)).Nodup ∧
      ∀ container item, Lists (addGroup groups read) container item ↔
        Lists groups container item ∨
          read.source.id = container ∧ ∃ row ∈ read.edges, row.relatedId = some item := by
  simp only [← mem_items]
  unfold addGroup
  dsimp only
  split
  case isTrue hnone =>
    rw [List.isEmpty_iff.1 hnone]
    exact ⟨hdistinct, fun container item => by simp⟩
  case isFalse hsome =>
    split
    case isTrue hgroup =>
      have hsame : containers (groups.map fun group => if group.space.id = read.source.id then
          { group with entities := group.entities ++
            read.edges.filterMap fun edge => edge.related_entity } else group)
          = containers groups := by
        rw [containers, List.map_map]
        refine List.map_congr_left fun group _ => ?_
        dsimp only [Function.comp]
        split <;> rfl
      refine ⟨hsame ▸ hdistinct, fun container item => ?_⟩
      unfold Lists
      constructor
      · rintro ⟨_, hmem, hcontainer, hitem⟩
        obtain ⟨group, hgroup, rfl⟩ := List.mem_map.1 hmem
        split at hcontainer
        case isTrue hsource =>
          rw [if_pos hsource, List.map_append, List.mem_append] at hitem
          rcases hitem with hitem | hitem
          · exact .inl ⟨group, hgroup, hcontainer, hitem⟩
          · exact .inr ⟨hsource.symm.trans hcontainer, hitem⟩
        case isFalse hother =>
          rw [if_neg hother] at hitem
          exact .inl ⟨group, hgroup, hcontainer, hitem⟩
      · rintro (⟨group, hgroup, hcontainer, hitem⟩ | ⟨hcontainer, hitem⟩)
        · refine ⟨_, List.mem_map_of_mem hgroup, ?_⟩
          split
          case isTrue =>
            refine ⟨hcontainer, ?_⟩
            rw [List.map_append]
            exact List.mem_append_left _ hitem
          case isFalse => exact ⟨hcontainer, hitem⟩
        · obtain ⟨group, hmem, hsource⟩ := List.any_eq_true.1 hgroup
          refine ⟨_, List.mem_map_of_mem hmem, ?_⟩
          rw [if_pos (of_decide_eq_true hsource)]
          refine ⟨(of_decide_eq_true hsource).trans hcontainer, ?_⟩
          rw [List.map_append]
          exact List.mem_append_right _ hitem
    case isFalse hgroup =>
      refine ⟨?_, fun container item => ?_⟩
      · rw [containers, List.map_append, List.map_singleton]
        rw [← List.concat_eq_append]
        refine List.Nodup.concat (fun hmem => hgroup ?_) hdistinct
        obtain ⟨group, hmem, hsource⟩ := List.mem_map.1 hmem
        exact List.any_eq_true.2 ⟨group, hmem, decide_eq_true hsource⟩
      · unfold Lists
        simp only [List.mem_append, List.mem_singleton, or_and_right, exists_or, exists_eq_left]

/-- The groups of all reads. -/
theorem foldl_addGroup_spec : ∀ (found : List SourceEdges) {groups : List FactContentGroup},
    (containers groups).Nodup → (containers (found.foldl addGroup groups)).Nodup ∧
      ∀ container item, Lists (found.foldl addGroup groups) container item ↔
        Lists groups container item ∨ ∃ read ∈ found, read.source.id = container ∧
          ∃ row ∈ read.edges, row.relatedId = some item := by
  intro found
  induction found with
  | nil => exact fun hdistinct => ⟨hdistinct, by simp⟩
  | cons read found ih =>
      intro groups hdistinct
      obtain ⟨hnext, hlists⟩ := addGroup_spec hdistinct read
      obtain ⟨hlast, hall⟩ := ih hnext
      refine ⟨hlast, fun container item => ?_⟩
      rw [List.foldl_cons, hall, hlists, or_assoc]
      simp [List.mem_cons]

/-! ### Groups that are cut down -/

/-- Groups of different containers, each of which lists an item once. -/
structure Tidy (groups : List FactContentGroup) : Prop where
  distinct : (containers groups).Nodup
  once : ∀ group ∈ groups, (group.entities.map Entity.id).Nodup

/-- The groups cut down to the records that a step keeps. -/
theorem kept_groups {groups : List FactContentGroup} (hdistinct : (containers groups).Nodup)
    (ids : List String) :
    Tidy (groups.map fun group => { group with
        entities := uniqueEntities (group.entities.filter fun item => ids.contains item.id) }) ∧
      ∀ container item, Lists (groups.map fun group => { group with
          entities := uniqueEntities (group.entities.filter fun item => ids.contains item.id) })
            container item ↔ Lists groups container item ∧ item ∈ ids := by
  refine ⟨⟨?_, ?_⟩, fun container item => ?_⟩
  · rw [containers, List.map_map]
    exact hdistinct
  · intro group hgroup
    obtain ⟨original, -, rfl⟩ := List.mem_map.1 hgroup
    exact (uniqueEntities_ids _).1
  · unfold Lists
    simp only [List.mem_map, exists_exists_and_eq_and]
    constructor
    · rintro ⟨group, hgroup, hcontainer, hitem⟩
      have hitem := ((uniqueEntities_ids _).2 item).1 (List.mem_map.2 hitem)
      obtain ⟨entity, hentity, rfl⟩ := List.mem_map.1 hitem
      obtain ⟨hentity, hkept⟩ := List.mem_filter.1 hentity
      exact ⟨⟨group, hgroup, hcontainer, entity, hentity, rfl⟩, List.contains_iff_mem.1 hkept⟩
    · rintro ⟨⟨group, hgroup, hcontainer, entity, hentity, rfl⟩, hkept⟩
      refine ⟨group, hgroup, hcontainer, List.mem_map.1 (((uniqueEntities_ids _).2 _).2 ?_)⟩
      exact List.mem_map_of_mem (List.mem_filter.2 ⟨hentity, List.contains_iff_mem.2 hkept⟩)

/-- The record that a selection shows for an item. -/
def shown (visible : List Entity) (item : Entity) : Option Entity :=
  visible.reverse.find? fun entity => entity.id = item.id

/-- The items of a group that remain visible. -/
theorem visible_items (visible items : List Entity) :
    ((items.filterMap (shown visible)).map Entity.id).Sublist (items.map Entity.id) ∧
      ∀ id, id ∈ (items.filterMap (shown visible)).map Entity.id ↔
        id ∈ items.map Entity.id ∧ id ∈ visible.map Entity.id := by
  induction items with
  | nil => exact ⟨List.Sublist.refl _, by simp⟩
  | cons item items ih =>
      obtain ⟨hsublist, hmem⟩ := ih
      cases hshown : shown visible item with
      | none =>
          rw [List.filterMap_cons_none hshown]
          refine ⟨hsublist.cons _, fun id => ?_⟩
          rw [hmem, List.map_cons, List.mem_cons]
          refine ⟨fun hid => ⟨.inr hid.1, hid.2⟩, fun hid => ⟨hid.1.resolve_left ?_, hid.2⟩⟩
          rintro rfl
          obtain ⟨entity, hentity, hid⟩ := List.mem_map.1 hid.2
          have hnone := List.find?_eq_none.1 hshown entity (List.mem_reverse.2 hentity)
          exact hnone (decide_eq_true hid)
      | some entity =>
          rw [List.filterMap_cons_some hshown]
          have hid : entity.id = item.id := by
            have hmatch := @List.find?_some _ (fun entity : Entity => decide (entity.id = item.id))
              _ _ hshown
            exact of_decide_eq_true hmatch
          have hentity : entity ∈ visible := List.mem_reverse.1 (List.mem_of_find?_eq_some hshown)
          rw [List.map_cons, List.map_cons, hid]
          refine ⟨hsublist.cons_cons _, fun id => ?_⟩
          rw [List.mem_cons, List.mem_cons, hmem]
          constructor
          · rintro (rfl | hitem)
            · exact ⟨.inl rfl, hid ▸ List.mem_map_of_mem hentity⟩
            · exact ⟨.inr hitem.1, hitem.2⟩
          · exact fun h => h.1.imp_right fun hitem => ⟨hitem, h.2⟩

/-- **The groups cut down to what a selection shows**: none of them is empty. -/
theorem visibleGroups_spec {groups : List FactContentGroup} (htidy : Tidy groups)
    (visible : List Entity) : Tidy (visibleGroups groups visible) ∧
      (∀ group ∈ visibleGroups groups visible, group.entities ≠ []) ∧
      ∀ container item, Lists (visibleGroups groups visible) container item ↔
        Lists groups container item ∧ item ∈ visible.map Entity.id := by
  have hmem : ∀ group, group ∈ visibleGroups groups visible ↔ ∃ original ∈ groups,
      group = ⟨original.space, original.entities.filterMap (shown visible)⟩ ∧
        group.entities ≠ [] := by
    intro group
    rw [visibleGroups, List.mem_filter, List.mem_map, Bool.not_eq_true', List.isEmpty_eq_false_iff]
    constructor
    · rintro ⟨⟨original, horiginal, rfl⟩, hsome⟩
      exact ⟨original, horiginal, rfl, hsome⟩
    · rintro ⟨original, horiginal, rfl, hsome⟩
      exact ⟨⟨original, horiginal, rfl⟩, hsome⟩
  refine ⟨⟨?_, fun group hgroup => ?_⟩, fun group hgroup => ?_, fun container item => ?_⟩
  · refine htidy.distinct.sublist ?_
    unfold visibleGroups containers
    refine (List.filter_sublist.map _).trans ?_
    rw [List.map_map]
    exact List.Sublist.refl _
  · obtain ⟨original, horiginal, rfl, -⟩ := (hmem group).1 hgroup
    exact (htidy.once original horiginal).sublist (visible_items visible original.entities).1
  · obtain ⟨-, -, -, hsome⟩ := (hmem group).1 hgroup
    exact hsome
  · unfold Lists
    constructor
    · rintro ⟨group, hgroup, hcontainer, hitem⟩
      obtain ⟨original, horiginal, rfl, -⟩ := (hmem group).1 hgroup
      obtain ⟨hitem, hvisible⟩ := ((visible_items visible original.entities).2 item).1 hitem
      exact ⟨⟨original, horiginal, hcontainer, hitem⟩, hvisible⟩
    · rintro ⟨⟨original, horiginal, hcontainer, hitem⟩, hvisible⟩
      have hshown := ((visible_items visible original.entities).2 item).2 ⟨hitem, hvisible⟩
      refine ⟨_, (hmem _).2 ⟨original, horiginal, rfl, ?_⟩, hcontainer, hshown⟩
      intro hnone
      dsimp only at hnone
      rw [hnone] at hshown
      cases hshown

/-! ### The last step -/

variable (engine) in
/-- The step lists the contents of records one of which is collapsed. -/
def CollapsedAmong (step : SemanticRelationStep) (starts : Set String) : Prop :=
  step.relation = "contents" ∧ ∃ id ∈ starts, ∃ record,
    engine.graph.entity? id = some record ∧ record.get "collapse" = .bool true

variable (engine) in
/-- A current edge puts the item directly in a container that the step reads. -/
def PutsIn (step : SemanticRelationStep) (starts : Set String) (container item : String) : Prop :=
  ∃ relation direction, engine.schema.physicalRelation step.relation = some (relation, direction) ∧
    ∃ id ∈ starts, engine.SourceOf step id container ∧
      ∃ row, engine.RowFrom relation direction step.filters container row ∧
        row.relatedId = some item

/-- Whether a step groups what it finds. -/
theorem collapsed_iff {step : SemanticRelationStep} {relation : String}
    {direction : Option Direction} {entities : List Entity} {reads : List EntityEdges}
    (hknown : ∀ entity ∈ entities, engine.Known entity)
    (h : entities.mapM (engine.entityEdges step relation direction) = .ok reads) :
    (reads.any fun read => read.collapsed) = true ↔
      engine.CollapsedAmong step (idSet entities) := by
  have hread : ∀ entity ∈ entities, ∀ read, engine.entityEdges step relation direction entity
      = .ok read → (read.collapsed = true ↔ step.relation = "contents" ∧ ∃ record,
        engine.graph.entity? entity.id = some record ∧ record.get "collapse" = .bool true) := by
    intro entity hentity read hok
    unfold entityEdges at hok
    obtain ⟨⟨collapsed, hosting, sources⟩, hsources, hok⟩ := Except.bind_eq_ok.1 hok
    obtain ⟨found, -, hok⟩ := Except.bind_eq_ok.1 hok
    obtain rfl := Except.ok.inj hok
    exact (stepSources_eq_ok (hknown entity hentity) hsources entity.id).2
  have hall := Except.mapM_eq_ok.1 h
  rw [List.any_eq_true]
  constructor
  · rintro ⟨read, hmem, hcollapsed⟩
    obtain ⟨entity, hentity, hok⟩ := List.exists_of_forall₂_right hall hmem
    obtain ⟨hrelation, hrecord⟩ := (hread entity hentity read hok).1 hcollapsed
    exact ⟨hrelation, entity.id, List.mem_map_of_mem hentity, hrecord⟩
  · rintro ⟨hrelation, id, hid, hrecord⟩
    obtain ⟨entity, hentity, rfl⟩ := List.mem_map.1 hid
    obtain ⟨read, hmem, hok⟩ := List.exists_of_forall₂_left hall hentity
    exact ⟨read, hmem, (hread entity hentity read hok).2 ⟨hrelation, hrecord⟩⟩

/-- **The groups of a step**: what it keeps, by the containers that hold it. -/
theorem takeStep_groups {now : Clock} {anchors entities : List Entity}
    {step : SemanticRelationStep} {reached : Reached} {passed : Remembered}
    (hknown : ∀ entity ∈ entities, engine.Known entity)
    (h : engine.takeStep now anchors step entities = .ok (reached, passed)) :
    Tidy reached.content_groups ∧
      ∀ container item, Lists reached.content_groups container item ↔
        item ∈ idSet reached.entities ∧ engine.CollapsedAmong step (idSet entities) ∧
          engine.PutsIn step (idSet entities) container item := by
  unfold takeStep at h
  split at h
  case h_1 => cases h
  case h_2 relation direction hrelation =>
    obtain ⟨reads, hreads, h⟩ := Except.bind_eq_ok.1 h
    obtain ⟨kept, -, h⟩ := Except.bind_eq_ok.1 h
    obtain ⟨rfl, -⟩ := Prod.mk.inj (Except.ok.inj h)
    have hcollapsed := collapsed_iff hknown hreads
    have hputs : ∀ container item, (∃ read ∈ reads.flatMap fun read => read.sources,
        read.source.id = container ∧ ∃ row ∈ read.edges, row.relatedId = some item) ↔
          engine.PutsIn step (idSet entities) container item := by
      intro container item
      constructor
      · rintro ⟨read, hread, hcontainer, row, hrow, hto⟩
        obtain ⟨entity, hentity, hsource, hfrom⟩ :=
          (mem_reads hknown hreads container row).1 ⟨read, hread, hcontainer, hrow⟩
        exact ⟨relation, direction, hrelation, entity.id, List.mem_map_of_mem hentity, hsource,
          row, hfrom, hto⟩
      · rintro ⟨relation', direction', hrelation', id, hid, hsource, row, hfrom, hto⟩
        rw [hrelation] at hrelation'
        obtain ⟨rfl, rfl⟩ := Prod.mk.inj (Option.some.inj hrelation')
        obtain ⟨entity, hentity, rfl⟩ := List.mem_map.1 hid
        obtain ⟨read, hread, hcontainer, hrow⟩ :=
          (mem_reads hknown hreads container row).2 ⟨entity, hentity, hsource, hfrom⟩
        exact ⟨read, hread, hcontainer, row, hrow, hto⟩
    unfold reachedBy
    dsimp only
    split
    case isTrue hsome =>
      obtain ⟨hdistinct, hlists⟩ :=
        @foldl_addGroup_spec (reads.flatMap fun read => read.sources) [] List.nodup_nil
      obtain ⟨htidy, hkept⟩ := kept_groups hdistinct (kept.map Entity.id)
      refine ⟨htidy, fun container item => ?_⟩
      rw [hkept, hlists, ← hputs, ← hcollapsed]
      have hnone : ¬ Lists [] container item := by
        rintro ⟨group, hgroup, -⟩
        cases hgroup
      rw [or_iff_right hnone]
      exact ⟨fun hitem => ⟨hitem.2, hsome, hitem.1⟩, fun hitem => ⟨hitem.2.2, hitem.1⟩⟩
    case isFalse hnone =>
      refine ⟨⟨List.nodup_nil, fun group hgroup => (by cases hgroup)⟩, fun container item => ?_⟩
      rw [← hcollapsed]
      constructor
      · rintro ⟨group, hgroup, -⟩
        cases hgroup
      · exact fun hitem => absurd hitem.2.1 hnone

/-- A path reaches nothing, or its last step reaches all that it reaches. -/
theorem followPath_concat {now : Clock} {anchors : List Entity} {allow_empty : Bool}
    {path : List SemanticRelationStep} {step : SemanticRelationStep} :
    ∀ {reached final : Reached} {remembered after : Remembered},
      engine.followPath now anchors allow_empty (path ++ [step]) reached remembered
        = .ok (final, after) →
      final = { entities := [] } ∨ ∃ before seen passed,
        engine.followPath now anchors allow_empty path reached remembered = .ok (before, seen) ∧
          engine.takeStep now anchors step before.entities = .ok (final, passed) := by
  induction path with
  | nil =>
      intro reached final remembered after h
      rw [List.nil_append] at h
      unfold followPath at h
      obtain ⟨⟨next, passed⟩, hstep, h⟩ := Except.bind_eq_ok.1 h
      dsimp only at h
      split at h
      case isTrue =>
        split at h
        case isTrue =>
          cases h
          exact .inl rfl
        case isFalse => cases h
      case isFalse =>
        cases h
        exact .inr ⟨reached, remembered, passed, rfl, hstep⟩
  | cons first path ih =>
      intro reached final remembered after h
      rw [List.cons_append] at h
      unfold followPath at h
      obtain ⟨⟨next, passed⟩, hstep, h⟩ := Except.bind_eq_ok.1 h
      dsimp only at h
      split at h
      case isTrue =>
        split at h
        case isTrue =>
          cases h
          exact .inl rfl
        case isFalse => cases h
      case isFalse hsome =>
        rcases ih h with hnone | ⟨before, seen, last, hbefore, hlast⟩
        · exact .inl hnone
        · refine .inr ⟨before, seen, last, ?_, hlast⟩
          unfold followPath
          rw [hstep]
          change (if next.entities.isEmpty = true then _ else _) = _
          rw [if_neg hsome]
          exact hbefore

/-! ### The groups of a selection -/

variable (engine) in
/-- The last step of a reference, and the records that it starts from. -/
def LastStep (context : AgentRequestContext) (reference : SemanticReference)
    (step : SemanticRelationStep) (starts : Set String) : Prop :=
  ∃ roots path, engine.rootEntities context reference = .ok roots ∧
    reference.path = path ++ [step] ∧
    starts = (engine.pathRelation context.current_time roots path).image (idSet roots)

variable (engine) in
/-- A current edge puts the item directly in a container, where the last step of a reference
lists the contents of a collapsed record. -/
def GroupedIn (context : AgentRequestContext) (reference : SemanticReference)
    (container item : String) : Prop :=
  ∃ step starts, engine.LastStep context reference step starts ∧
    engine.CollapsedAmong step starts ∧ engine.PutsIn step starts container item

/-- A path that has been followed starts its last step from known records. -/
theorem followPath_known {now : Clock} {anchors : List Entity} {allow_empty : Bool}
    {path : List SemanticRelationStep} {reached final : Reached} {remembered after : Remembered}
    (hknown : ∀ entity ∈ reached.entities, engine.Known entity)
    (h : engine.followPath now anchors allow_empty path reached remembered = .ok (final, after)) :
    ∀ entity ∈ final.entities, engine.Known entity := by
  intro entity hentity
  rcases (followPath_image hknown h).2.2 entity hentity with hview | ⟨-, hroot⟩
  · exact .inl hview
  · exact hknown entity hroot

/-- **The groups of a resolution.** -/
theorem resolve_groups {reference : SemanticReference} {context : AgentRequestContext}
    {evidence : List FactRelationshipEvidence} {allow_empty expect_many : Bool}
    {resolution : ResolvedEntities}
    (h : engine.resolve reference context evidence allow_empty expect_many
      = .ok (.inr resolution)) :
    Tidy resolution.content_groups ∧
      ∀ container item, Lists resolution.content_groups container item ↔
        item ∈ engine.Denotes context reference ∧
          engine.GroupedIn context reference container item := by
  have hdenotes := (resolve_denotes h).1
  obtain ⟨reached, remembered, hpath, -, -, hentities, hgroups⟩ := resolve_reached h
  obtain ⟨roots, hroots, hfollow⟩ := Except.bind_eq_ok.1 hpath
  have hknown := (rootEntities_known hroots).1
  rw [hgroups, ← hdenotes, hentities]
  have hnoGroups : ∀ container item, ¬ Lists [] container item := by
    rintro container item ⟨group, hgroup, -⟩
    cases hgroup
  rcases List.eq_nil_or_concat reference.path with hnil | ⟨path, step, hconcat⟩
  · rw [hnil] at hfollow
    cases hfollow
    refine ⟨⟨List.nodup_nil, fun group hgroup => (by cases hgroup)⟩, fun container item => ?_⟩
    refine ⟨fun hlists => absurd hlists (hnoGroups _ _), ?_⟩
    rintro ⟨-, step, starts, ⟨_, path, -, hlast, -⟩, -⟩
    rw [hnil] at hlast
    exact absurd hlast.symm (List.append_ne_nil_of_right_ne_nil _ (List.cons_ne_nil _ _))
  · rw [List.concat_eq_append] at hconcat
    have hlast : ∀ step' starts, engine.LastStep context reference step' starts ↔
        step' = step ∧ starts =
          (engine.pathRelation context.current_time roots path).image (idSet roots) := by
      intro step' starts
      constructor
      · rintro ⟨roots', path', hroots', hpath', rfl⟩
        rw [hroots] at hroots'
        obtain rfl := Except.ok.inj hroots'
        rw [hconcat] at hpath'
        obtain ⟨rfl, hstep⟩ := List.append_inj' hpath' rfl
        exact ⟨(List.cons.inj hstep).1.symm, rfl⟩
      · rintro ⟨rfl, rfl⟩
        exact ⟨roots, path, hroots, hconcat, rfl⟩
    rw [hconcat] at hfollow
    rcases followPath_concat hfollow with rfl | ⟨before, seen, passed, hbefore, hstep⟩
    · refine ⟨⟨List.nodup_nil, fun group hgroup => (by cases hgroup)⟩, fun container item => ?_⟩
      refine ⟨fun hlists => absurd hlists (hnoGroups _ _), ?_⟩
      rintro ⟨hitem, -⟩
      cases hitem
    · obtain ⟨htidy, hlists⟩ := takeStep_groups (followPath_known hknown hbefore) hstep
      refine ⟨htidy, fun container item => ?_⟩
      rw [hlists]
      unfold GroupedIn
      simp only [hlast]
      rw [(followPath_image hknown hbefore).1]
      constructor
      · rintro ⟨hitem, hcollapsed, hputs⟩
        exact ⟨hitem, step, _, ⟨rfl, rfl⟩, hcollapsed, hputs⟩
      · rintro ⟨hitem, _, _, ⟨rfl, rfl⟩, hcollapsed, hputs⟩
        exact ⟨hitem, hcollapsed, hputs⟩

/-- What a path leads to is put in a container that its last step reads. -/
theorem putsIn_of_image {now : Clock} {anchors : List Entity} {step : SemanticRelationStep}
    {item : String} : ∀ (path : List SemanticRelationStep) (starts : Set String),
      item ∈ (engine.pathRelation now anchors (path ++ [step])).image starts →
      ∃ container, engine.PutsIn step ((engine.pathRelation now anchors path).image starts)
        container item := by
  intro path
  induction path with
  | nil =>
      intro starts hitem
      rw [List.nil_append, image_pathRelation_cons, image_pathRelation_nil] at hitem
      rw [image_pathRelation_nil]
      obtain ⟨id, hid, relation, direction, hrelation, ⟨source, row, hsource, hfrom, hto⟩, -⟩ :=
        hitem
      exact ⟨source, relation, direction, hrelation, id, hid, hsource, row, hfrom, hto⟩
  | cons first path ih =>
      intro starts hitem
      rw [List.cons_append, image_pathRelation_cons] at hitem
      rw [image_pathRelation_cons]
      exact ih _ hitem

variable (engine) in
/-- The groups list the answers of a request by the containers that directly hold them. -/
structure CoversContents (context : AgentRequestContext) (request : SemanticFactRequest)
    (groups : List FactContentGroup) : Prop where
  tidy : Tidy groups
  nonempty : ∀ group ∈ groups, group.entities ≠ []
  grouped : groups ≠ [] ↔ (engine.Answers context request).Nonempty ∧
    ∃ step starts, engine.LastStep context request.subject step starts ∧
      engine.CollapsedAmong step starts
  exact : ∀ container item, Lists groups container item ↔
    item ∈ engine.Answers context request ∧
      engine.GroupedIn context request.subject container item

/-- **The groups of a selection cover what it shows**: each record is listed by exactly the
containers, of those that the last step reads, that a current edge puts it in; nothing else is
listed, no container twice, and no record twice in one group. -/
theorem execute_groups {request : SemanticFactRequest} {context : AgentRequestContext}
    (hselect : request.operation = .select) (hproperty : request.property = none)
    {result : FactResult} (h : engine.execute request context = .ok result)
    (hvalue : result.value ≠ .json .null) :
    engine.CoversContents context request result.content_groups := by
  obtain ⟨grounded, visible, hground, -, -, hgroups, hanswers, -⟩ :=
    execute_select hselect hproperty h hvalue
  obtain ⟨htidy, hlists⟩ := resolve_groups (engine.ground_subject hground)
  obtain ⟨htidy, hnonempty, hshown⟩ := visibleGroups_spec htidy visible
  rw [← hgroups] at htidy hnonempty hshown
  have hexact : ∀ container item, Lists result.content_groups container item ↔
      item ∈ engine.Answers context request ∧
        engine.GroupedIn context request.subject container item := by
    intro container item
    rw [hshown, hlists, ← hanswers]
    constructor
    · rintro ⟨⟨-, hgrouped⟩, hvisible⟩
      exact ⟨hvisible, hgrouped⟩
    · rintro ⟨hvisible, hgrouped⟩
      have hanswer : item ∈ engine.Answers context request := hanswers ▸ hvisible
      exact ⟨⟨hanswer.1, hgrouped⟩, hvisible⟩
  refine ⟨htidy, hnonempty, ⟨fun hsome => ?_, ?_⟩, hexact⟩
  · obtain ⟨group, hgroup⟩ := List.exists_mem_of_ne_nil _ hsome
    obtain ⟨item, hitem⟩ := List.exists_mem_of_ne_nil _ (hnonempty group hgroup)
    obtain ⟨hanswer, step, starts, hlast, hcollapsed, -⟩ := (hexact group.space.id item.id).1
      ⟨group, hgroup, rfl, List.mem_map_of_mem hitem⟩
    exact ⟨⟨item.id, hanswer⟩, step, starts, hlast, hcollapsed⟩
  · rintro ⟨⟨item, hanswer⟩, step, starts, hlast, hcollapsed⟩ hnone
    -- what the last step leads to is put in a container that it reads
    obtain ⟨roots, path, hroots, hpath, rfl⟩ := id hlast
    obtain ⟨roots', hroots', hitem⟩ := hanswer.1
    rw [hroots] at hroots'
    obtain rfl := Except.ok.inj hroots'
    rw [hpath] at hitem
    obtain ⟨container, hputs⟩ : ∃ container, engine.PutsIn step
        ((engine.pathRelation context.current_time roots path).image (idSet roots))
          container item :=
      putsIn_of_image path _ hitem
    obtain ⟨group, hgroup, -⟩ :=
      (hexact container item).2 ⟨hanswer, step, _, hlast, hcollapsed, hputs⟩
    rw [hnone] at hgroup
    cases hgroup

/-! ### A fridge -/

/-- A fridge with a shelf: the egg is recorded at both, the milk on the shelf. -/
def fridgeGraph : HouseholdGraph where
  tables := ["item", "space"]
  ids table := if table = "item" then ["item:egg", "item:milk"] else if table = "space" then
    ["space:fridge", "space:shelf"] else []
  record id := if id = "space:fridge" then some [("name", .str "Fridge"), ("collapse", .bool true)]
    else if id ∈ ["item:egg", "item:milk", "space:shelf"] then some [("name", .str "thing")]
    else none
  edges relation := if relation = "located_in" then
      [⟨"item:egg", "space:fridge", []⟩, ⟨"item:egg", "space:shelf", []⟩,
        ⟨"item:milk", "space:shelf", []⟩]
    else if relation = "hosted_by" then [⟨"space:shelf", "space:fridge", []⟩] else []
  named _ records := records
  fails _ := false
  record_named := by
    have hcolon : ∀ id ∈ ["item:egg", "item:milk", "space:shelf"], ':' ∈ id.toList := by
      decide
    intro id fields h
    split at h
    case isTrue hid => exact hid ▸ by decide
    case isFalse =>
      split at h
      case isTrue hmem => exact hcolon id hmem
      case isFalse => cases h
  ids_typed := by
    intro table htable id hid
    rcases List.mem_cons.1 htable with rfl | htable
    · have htyped : ∀ id ∈ ["item:egg", "item:milk"], idType id = "item" := by decide +kernel
      exact htyped id hid
    · obtain rfl := List.mem_singleton.1 htable
      have htyped : ∀ id ∈ ["space:fridge", "space:shelf"], idType id = "space" := by
        decide +kernel
      exact htyped id hid
  named_subset _ _ := List.Subset.refl _

theorem fridge_edges :
    (∃ edge ∈ EdgeSchemaRegistry.deployed.schemas, edge.id = "located_in" ∧
      edge.from_types = ["item"] ∧ edge.to_types = ["address", "space"]) ∧
    ∃ edge ∈ EdgeSchemaRegistry.deployed.schemas, edge.id = "hosted_by" ∧
      edge.from_types = ["space"] ∧ edge.to_types = ["item", "space"] := by
  decide +kernel

/-- Both relations of the fridge are declared. -/
theorem fridgeRelations_declared : ∀ name schema,
    [("located_in", (⟨["item"], ["address", "space"], [], []⟩ : RelationTypeSchema)),
      ("hosted_by", ⟨["space"], ["item", "space"], [], []⟩)].lookup name = some schema →
    ∃ edge ∈ EdgeSchemaRegistry.deployed.schemas, edge.id = name ∧
      edge.from_types = schema.from_types ∧ edge.to_types = schema.to_types := by
  intro name schema h
  rw [List.lookup_cons] at h
  split at h
  case h_1 heq =>
    obtain rfl := Option.some.inj h
    rw [beq_iff_eq.1 heq]
    exact fridge_edges.1
  case h_2 => exact oneRelation_declared fridge_edges.2 name schema h

/-- The engine over the fridge, as it is configured by default. -/
def fridgeEngine : HouseholdFactEngine where
  graph := fridgeGraph
  schema := {
    catalog := {
      entities := [("item", ⟨"item", ["name"], []⟩), ("space", ⟨"space", ["name", "collapse"], []⟩)]
      relations := [("located_in", ⟨["item"], ["address", "space"], [], []⟩),
        ("hosted_by", ⟨["space"], ["item", "space"], [], []⟩)]
      edge_registry := .deployed
      relations_declared := fridgeRelations_declared }
    ontology := {
      base_relations := [("contents", "contains"), ("hosted_space", "hosts_space")]
      validated := by decide } }
  max_records := 25
  bounded := defaultRecords_bounded

/-- "What is in the fridge?" -/
def fridgeContents : SemanticFactRequest where
  operation := .select
  subject := {
    kind := .entityId, value := some "space:fridge", path := [⟨"contents", [], by decide⟩]
    validated := by decide +kernel }
  exclude_bound := noExclude_bound
  amount_bound := noAmount_bound

/-- The egg is listed under both its containers. -/
theorem fridgeContents_covered : ∃ result,
    fridgeEngine.execute fridgeContents homeRequest = .ok result ∧
    result.content_groups.map (fun group => (group.space.id, group.entities.map Entity.id))
      = [("space:fridge", ["item:egg"]), ("space:shelf", ["item:egg", "item:milk"])] ∧
    fridgeEngine.CoversContents homeRequest fridgeContents result.content_groups := by
  have hrun : (fridgeEngine.execute fridgeContents homeRequest).toOption.map (fun result =>
      (decide (result.value ≠ .json .null), result.content_groups.map fun group =>
        (group.space.id, group.entities.map Entity.id))) = some (true,
          [("space:fridge", ["item:egg"]), ("space:shelf", ["item:egg", "item:milk"])]) := by
    decide +kernel
  cases hresult : fridgeEngine.execute fridgeContents homeRequest with
  | error error =>
      rw [hresult] at hrun
      cases hrun
  | ok result =>
      rw [hresult] at hrun
      obtain ⟨hvalue, hgroups⟩ := Prod.mk.inj (Option.some.inj hrun)
      exact ⟨result, rfl, hgroups, fridgeEngine.execute_groups rfl rfl hresult
        (of_decide_eq_true hvalue)⟩

end HouseholdFactEngine
end HomeCortex
