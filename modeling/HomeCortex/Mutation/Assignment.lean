/-
# Single assignment of a body

`EmbodimentWritingService` under any number of concurrent callers.  A transaction
leaves the edges of `assigned_to` as they are, deletes those of one body, or relates
a body that has none (`exec_cases`).  So a body never has two edges, as long as the
key of its edge is its own, and its agent changes by `delete` and `unassign` only.

`list` reads the bodies and then the edges, in two database calls.  It raises for an
edge whose body it has not read, and an assignment that is related in between can be
one (`tornEvents_not_single`).  The states that meet the claim are those of the runs
in which no event does this (`Admissible`, `runs_single_assignment`).
-/

import HomeCortex.Mutation.Bodies
import HomeCortex.Library.Checked

namespace HomeCortex

open Spatial Except

/-! ### Typed ids -/

/-- The record of a body. -/
def RecordID.IsBody (record : RecordID) : Prop :=
  record.Valid ∧ record.table_name = "embodiment"

/-- The record of an agent. -/
def RecordID.IsAgent (record : RecordID) : Prop := record.Valid ∧ record.table_name = "agent"

/-- The ids of a transaction name bodies and agents. -/
def BodyTransaction.Typed : BodyTransaction → Prop
  | .create body _ | .update body _ | .delete body | .unassign body => body.IsBody
  | .assign body agent => body.IsBody ∧ agent.IsAgent

namespace EmbodimentWriting

theorem splitRecordId_canonical {record : RecordID} (h : record.Valid) :
    splitRecordId (canonicalRecordId record) = .ok (record.table_name, record.id) := by
  have hparse := asRecordId_canonical h
  rw [asRecordId, map_eq_ok] at hparse
  obtain ⟨⟨table, key⟩, hsplit, rfl⟩ := hparse
  exact hsplit

theorem typedId_canonical {record : RecordID} {table field : String} (h : record.Valid)
    (htable : record.table_name = table) :
    typedId (.str (canonicalRecordId record)) table field = .ok (canonicalRecordId record) := by
  simp [typedId, splitRecordId_canonical h, htable]

theorem asRecordId_of_typed {table text : String} {record : RecordID}
    (htyped : isTypedId table text = true) (h : asRecordId text = .ok record) :
    record.Valid ∧ record.table_name = table := by
  obtain ⟨hvalid, rfl⟩ := asRecordId_ok h
  rw [isTypedId, splitRecordId_canonical hvalid] at htyped
  exact ⟨hvalid, by simpa using htyped⟩

/-! ### What the transactions do to assignments -/

/-- The body is assigned to the agent. -/
def Assigned (store : Store) (body agent : RecordID) : Prop :=
  ∃ id content, id.table_name = "assigned_to" ∧
    store.lookup id = some ⟨some (body, agent), content⟩

/-- Assignments join stored bodies to stored agents, and a body has at most one. -/
structure Consistent (store : Store) : Prop where
  joins : ∀ id stored, store.lookup id = some stored → id.table_name = "assigned_to" →
    ∃ body agent content, stored = ⟨some (body, agent), content⟩ ∧ body.IsBody ∧ agent.IsAgent ∧
      (store.lookup body).isSome = true ∧ (store.lookup agent).isSome = true
  single : ∀ id id' body agent agent' content content',
    id.table_name = "assigned_to" → id'.table_name = "assigned_to" →
    store.lookup id = some ⟨some (body, agent), content⟩ →
    store.lookup id' = some ⟨some (body, agent'), content'⟩ → id = id'


variable {store after : Store} {engine : Engine} {body agent : RecordID}

/-- The edges of `assigned_to` are what they were, and no stored record is gone. -/
structure SameEdges (store after : Store) : Prop where
  edges : ∀ id, id.table_name = "assigned_to" → after.lookup id = store.lookup id
  records : ∀ id, (store.lookup id).isSome = true → (after.lookup id).isSome = true

theorem SameEdges.assigned (h : SameEdges store after) :
    Assigned after body agent ↔ Assigned store body agent := by
  constructor
  · rintro ⟨id, content, htable, hlookup⟩
    exact ⟨id, content, htable, by rw [← h.edges id htable, hlookup]⟩
  · rintro ⟨id, content, htable, hlookup⟩
    exact ⟨id, content, htable, by rw [h.edges id htable, hlookup]⟩

theorem SameEdges.consistent (h : SameEdges store after) (hstore : Consistent store) :
    Consistent after := by
  constructor
  · intro id stored hlookup htable
    rw [h.edges id htable] at hlookup
    obtain ⟨body, agent, content, rfl, hbody, hagent, hin, hout⟩ :=
      hstore.joins id stored hlookup htable
    exact ⟨body, agent, content, rfl, hbody, hagent, h.records body hin, h.records agent hout⟩
  · intro id id' body agent agent' content content' htable htable' hlookup hlookup'
    rw [h.edges id htable] at hlookup
    rw [h.edges id' htable'] at hlookup'
    exact hstore.single id id' body agent agent' content content' htable htable' hlookup hlookup'

/-- Writing the record of a body leaves the edges alone. -/
theorem sameEdges_insert (hbody : body.IsBody) (stored : StoredRecord) :
    SameEdges store (store.insert body stored) := by
  constructor
  · intro id htable
    have hne : id ≠ body := by
      rintro rfl
      simp [hbody.2] at htable
    exact AList.lookup_insert_ne hne
  · intro id hid
    by_cases hne : id = body
    · subst hne
      rw [AList.lookup_insert, Option.isSome_some]
    · rwa [AList.lookup_insert_ne hne]

theorem startsAt_eq_true {stored : StoredRecord} :
    stored.startsAt body = true ↔ ∃ target, stored.endpoints = some (body, target) := by
  obtain ⟨endpoints, content⟩ := stored
  rcases endpoints with _ | ⟨source, target⟩ <;> simp [StoredRecord.startsAt]

/-- What is left after the edges of a body are deleted. -/
theorem lookup_deleteOutgoing {id : RecordID} {stored : StoredRecord} :
    (store.deleteWhere fun id stored => id.table_name == "assigned_to" && stored.startsAt body).lookup
        id = some stored ↔
      store.lookup id = some stored ∧
        (id.table_name = "assigned_to" → ∀ target, stored.endpoints ≠ some (body, target)) := by
  rw [AList.lookup_deleteWhere_eq_some, Bool.and_eq_false_imp, beq_iff_eq]
  refine and_congr_right fun _ => forall_congr' fun _ => ?_
  rw [Bool.eq_false_iff, ne_eq, startsAt_eq_true, not_exists]

/-- After the edges of a body are deleted, with or without its record. -/
structure Unassigns (body : RecordID) (store after : Store) : Prop where
  edges : ∀ id stored, id.table_name = "assigned_to" →
    (after.lookup id = some stored ↔
      store.lookup id = some stored ∧ ∀ target, stored.endpoints ≠ some (body, target))
  records : ∀ id, id ≠ body → id.table_name ≠ "assigned_to" →
    (store.lookup id).isSome = true → (after.lookup id).isSome = true

theorem Unassigns.assigned (h : Unassigns body store after) {other : RecordID} :
    Assigned after other agent ↔ Assigned store other agent ∧ other ≠ body := by
  constructor
  · rintro ⟨id, content, htable, hlookup⟩
    obtain ⟨hold, hne⟩ := (h.edges id _ htable).1 hlookup
    refine ⟨⟨id, content, htable, hold⟩, ?_⟩
    rintro rfl
    exact hne agent rfl
  · rintro ⟨⟨id, content, htable, hlookup⟩, hne⟩
    refine ⟨id, content, htable, (h.edges id _ htable).2 ⟨hlookup, fun target heq => ?_⟩⟩
    exact hne (congrArg Prod.fst (Option.some.inj heq))

theorem Unassigns.consistent (h : Unassigns body store after) (hbody : body.IsBody)
    (hstore : Consistent store) : Consistent after := by
  constructor
  · intro id stored hlookup htable
    obtain ⟨hold, hne⟩ := (h.edges id stored htable).1 hlookup
    obtain ⟨other, agent, content, rfl, hother, hagent, hin, hout⟩ :=
      hstore.joins id stored hold htable
    refine ⟨other, agent, content, rfl, hother, hagent, h.records other ?_ ?_ hin,
      h.records agent ?_ ?_ hout⟩
    · rintro rfl
      exact hne agent rfl
    · simp [hother.2]
    · rintro rfl
      have := hbody.2.symm.trans hagent.2
      simp at this
    · simp [hagent.2]
  · intro id id' other agent agent' content content' htable htable' hlookup hlookup'
    exact hstore.single id id' other agent agent' content content' htable htable'
      ((h.edges id _ htable).1 hlookup).1 ((h.edges id' _ htable').1 hlookup').1

/-- The edge that `assign` relates, under a key that no other edge has. -/
theorem relate_consistent {content : Fields} (hbody : body.IsBody) (hagent : agent.IsAgent)
    (hin : (store.lookup body).isSome = true) (hout : (store.lookup agent).isSome = true)
    (hstore : Consistent store) (hnone : ∀ other, ¬Assigned store body other)
    (hfree : store.lookup (BodyTransaction.edgeId body) = none) :
    Consistent (store.insert (BodyTransaction.edgeId body) ⟨some (body, agent), content⟩) ∧
      ∀ other target, Assigned (store.insert (BodyTransaction.edgeId body)
          ⟨some (body, agent), content⟩) other target ↔
        Assigned store other target ∨ other = body ∧ target = agent := by
  have hlookup : ∀ id stored, (store.insert (BodyTransaction.edgeId body)
      ⟨some (body, agent), content⟩).lookup id = some stored ↔
        id = BodyTransaction.edgeId body ∧ stored = ⟨some (body, agent), content⟩ ∨
          store.lookup id = some stored := by
    intro id stored
    by_cases hid : id = BodyTransaction.edgeId body
    · subst hid
      rw [AList.lookup_insert, hfree]
      simp [eq_comm]
    · rw [AList.lookup_insert_ne hid]
      simp [hid]
  have hkept : ∀ id, (store.lookup id).isSome = true →
      ((store.insert (BodyTransaction.edgeId body) ⟨some (body, agent), content⟩).lookup id).isSome
        = true := by
    intro id hid
    obtain ⟨stored, hid⟩ := Option.isSome_iff_exists.1 hid
    rw [(hlookup id stored).2 (Or.inr hid), Option.isSome_some]
  refine ⟨⟨?_, ?_⟩, ?_⟩
  · intro id stored hid htable
    rcases (hlookup id stored).1 hid with ⟨rfl, rfl⟩ | hid
    · exact ⟨body, agent, content, rfl, hbody, hagent, hkept body hin, hkept agent hout⟩
    · obtain ⟨other, target, content, rfl, hother, htarget, hin, hout⟩ :=
        hstore.joins id stored hid htable
      exact ⟨other, target, content, rfl, hother, htarget, hkept other hin, hkept target hout⟩
  · intro id id' other target target' content content' htable htable' hid hid'
    rcases (hlookup id _).1 hid with ⟨rfl, heq⟩ | hid <;>
      rcases (hlookup id' _).1 hid' with ⟨rfl, heq'⟩ | hid'
    · rfl
    · cases heq
      exact absurd ⟨id', content', htable', hid'⟩ (hnone target')
    · cases heq'
      exact absurd ⟨id, content, htable, hid⟩ (hnone target)
    · exact hstore.single id id' other target target' content content' htable htable' hid hid'
  · intro other target
    constructor
    · rintro ⟨id, content, htable, hid⟩
      rcases (hlookup id _).1 hid with ⟨-, heq⟩ | hid
      · cases heq
        exact Or.inr ⟨rfl, rfl⟩
      · exact Or.inl ⟨id, content, htable, hid⟩
    · rintro (⟨id, content, htable, hid⟩ | ⟨rfl, rfl⟩)
      · exact ⟨id, content, htable, (hlookup id _).2 (Or.inr hid)⟩
      · exact ⟨_, content, rfl, (hlookup _ _).2 (Or.inl ⟨rfl, rfl⟩)⟩

theorem not_assigned_of_nil (h : BodyTransaction.assignedAgents store body = []) :
    ¬Assigned store body agent := by
  rintro ⟨id, content, htable, hlookup⟩
  have hmem : agent ∈ BodyTransaction.assignedAgents store body := by
    refine List.mem_filterMap.2 ⟨(id, ⟨some (body, agent), content⟩), AList.mem_select.2
      ⟨hlookup, ?_⟩, rfl⟩
    simp [htable, StoredRecord.startsAt]
  rw [h] at hmem
  cases hmem

/-- **What a transaction of the service does to assignments.** -/
theorem exec_cases {transaction : BodyTransaction} (htyped : transaction.Typed)
    (h : transaction.exec engine store = some after) :
    SameEdges store after ∨
      (∃ body, (transaction = .delete body ∨ transaction = .unassign body) ∧
        Unassigns body store after) ∨
      ∃ body agent, transaction = .assign body agent ∧ (store.lookup body).isSome = true ∧
        (store.lookup agent).isSome = true ∧ (∀ other, ¬Assigned store body other) ∧
        after = store.insert (BodyTransaction.edgeId body) ⟨some (body, agent), engine.keep []⟩ := by
  cases transaction with
  | create body content =>
      simp only [BodyTransaction.exec, Engine.transact_cons, Engine.transact_nil,
        Option.bind_eq_some_iff, Engine.exec_throwIfPresent] at h
      obtain ⟨_, ⟨-, rfl⟩, _, hcreate, hafter⟩ := h
      cases hcreate
      cases hafter
      exact Or.inl (sameEdges_insert htyped _)
  | update body content =>
      simp only [BodyTransaction.exec] at h
      split at h
      · cases h
        exact Or.inl (sameEdges_insert htyped _)
      · cases h
  | delete body =>
      simp only [BodyTransaction.exec, Engine.transact_cons, Engine.transact_nil,
        Option.bind_eq_some_iff, Engine.exec_throwIfMissing] at h
      obtain ⟨_, ⟨-, rfl⟩, _, hedges, _, hbody, hafter⟩ := h
      cases hedges
      cases hbody
      cases hafter
      refine Or.inr (Or.inl ⟨body, Or.inl rfl, ?_, ?_⟩)
      · intro id stored htable
        have hne : id ≠ body := by
          rintro rfl
          simp [htyped.2] at htable
        rw [AList.lookup_erase_ne hne, lookup_deleteOutgoing]
        simp [htable]
      · intro id hne htable hid
        obtain ⟨stored, hid⟩ := Option.isSome_iff_exists.1 hid
        rw [AList.lookup_erase_ne hne, lookup_deleteOutgoing.2
          ⟨hid, fun h => absurd h htable⟩, Option.isSome_some]
  | assign body agent =>
      simp only [BodyTransaction.exec, Engine.transact_cons, Engine.transact_nil,
        Option.bind_eq_bind, Option.bind_eq_some_iff, Engine.exec_throwIfMissing] at h
      obtain ⟨_, ⟨_, ⟨hbody, rfl⟩, _, ⟨hagent, rfl⟩, hsame⟩, h⟩ := h
      cases hsame
      split at h
      case h_1 hnil =>
        simp only [Engine.exec, Surreal.relate, Option.bind_some] at h
        cases h
        exact Or.inr (Or.inr ⟨body, agent, rfl, hbody, hagent,
          fun _ => not_assigned_of_nil hnil, rfl⟩)
      case h_2 =>
        split at h
        · cases h
          exact Or.inl ⟨fun _ _ => rfl, fun _ h => h⟩
        · cases h
      case h_3 => cases h
  | unassign body =>
      simp only [BodyTransaction.exec, Engine.transact_cons, Engine.transact_nil,
        Option.bind_eq_some_iff, Engine.exec_throwIfMissing] at h
      obtain ⟨_, ⟨-, rfl⟩, _, hedges, hafter⟩ := h
      cases hedges
      cases hafter
      refine Or.inr (Or.inl ⟨body, Or.inr rfl, ?_, ?_⟩)
      · intro id stored htable
        rw [lookup_deleteOutgoing]
        simp [htable]
      · intro id hne htable hid
        obtain ⟨stored, hid⟩ := Option.isSome_iff_exists.1 hid
        rw [lookup_deleteOutgoing.2 ⟨hid, fun h => absurd h htable⟩,
          Option.isSome_some]

/-! ### What `list` raises -/

theorem collectBody_error {nodes : List Fields} {error : PyError}
    {state : List (String × String) × List Embodiment}
    (h : nodes.foldlM collectBody state = .error error) :
    nodes.mapM parseBody = .error error := by
  induction nodes generalizing state with
  | nil => cases h
  | cons node nodes ih =>
      rw [List.foldlM_cons] at h
      rw [List.mapM_cons]
      cases hnode : parseBody node with
      | error e =>
          simp only [collectBody, hnode, bind, Except.bind] at h ⊢
          cases h
          rfl
      | ok body =>
          simp only [collectBody, hnode, bind, Except.bind, pure, Except.pure] at h ⊢
          rw [ih h]

/-- The assignments that are left are those of no body. -/
theorem collectBody_left {nodes : List Fields} {state left : List (String × String) × List Embodiment}
    (h : nodes.foldlM collectBody state = .ok left) {assignment : String × String}
    (hleft : assignment ∈ left.1) :
    assignment ∈ state.1 ∧ ∀ node ∈ nodes, node.get? "id" ≠ some (.str assignment.1) := by
  induction nodes generalizing state with
  | nil =>
      cases h
      exact ⟨hleft, fun _ hnode => absurd hnode List.not_mem_nil⟩
  | cons node nodes ih =>
      rw [List.foldlM_cons, bind_eq_ok] at h
      obtain ⟨middle, hnode, h⟩ := h
      obtain ⟨hmiddle, hrest⟩ := ih h
      simp only [collectBody, bind_eq_ok, pure_eq_ok] at hnode
      obtain ⟨body, hbody, rfl⟩ := hnode
      simp only [parseBody, bind_eq_ok] at hbody
      obtain ⟨-, -, hbody⟩ := hbody
      obtain ⟨hmem, hne⟩ := List.mem_filter.1 hmiddle
      refine ⟨hmem, fun other hother => ?_⟩
      rcases List.mem_cons.1 hother with rfl | hother
      · rw [embodimentFromMapping_id hbody]
        intro hsame
        simp only [Option.some.injEq, Json.str.injEq] at hsame
        simp [hsame] at hne
      · exact hrest other hother

/-- The texts of an edge. -/
def assignmentText (entry : RecordID × StoredRecord) : String × String :=
  match entry.2.endpoints with
  | some (body, agent) => (canonicalRecordId body, canonicalRecordId agent)
  | none => ("", "")

/-- The edges of a consistent store are collected without a raise. -/
theorem collectAssignment_rows {entries : List (RecordID × StoredRecord)}
    {assignments : List (String × String)}
    (hjoins : ∀ entry ∈ entries, ∃ body agent content, entry.2 = ⟨some (body, agent), content⟩ ∧
      body.IsBody ∧ agent.IsAgent)
    (hdistinct : (entries.map fun entry => (assignmentText entry).1).Nodup)
    (hnew : ∀ entry ∈ entries, (assignmentText entry).1 ∉ assignments.map Prod.fst) :
    (entries.map fun entry => Surreal.row entry.1 entry.2).foldlM collectAssignment assignments
      = .ok (assignments ++ entries.map assignmentText) := by
  induction entries generalizing assignments with
  | nil => simp [pure, Except.pure]
  | cons entry entries ih =>
      obtain ⟨body, agent, content, hstored, hbody, hagent⟩ := hjoins entry List.mem_cons_self
      rw [List.map_cons, List.nodup_cons] at hdistinct
      have hhead : collectAssignment assignments (Surreal.row entry.1 entry.2)
          = .ok (assignments ++ [assignmentText entry]) := by
        have hfresh := hnew entry List.mem_cons_self
        have htext : assignmentText entry = (canonicalRecordId body, canonicalRecordId agent) := by
          rw [assignmentText, hstored]
        rw [htext] at hfresh ⊢
        have hin : (Surreal.row entry.1 entry.2).get? "in"
            = some (.str (canonicalRecordId body)) := by
          rw [hstored]
          rfl
        have hout : (Surreal.row entry.1 entry.2).get? "out"
            = some (.str (canonicalRecordId agent)) := by
          rw [hstored]
          rfl
        simp only [collectAssignment, edgeField, hin, hout, bind, Except.bind,
          typedId_canonical hbody.1 hbody.2, typedId_canonical hagent.1 hagent.2, raiseIf,
          List.contains_eq_mem, decide_eq_true_eq, if_neg hfresh, pure, Except.pure]
      rw [List.map_cons, List.foldlM_cons, hhead]
      change List.foldlM _ _ _ = _
      rw [ih (fun other hother => hjoins other (List.mem_cons_of_mem _ hother)) hdistinct.2]
      · simp
      · intro other hother
        rw [List.map_append, List.mem_append, not_or]
        refine ⟨hnew other (List.mem_cons_of_mem _ hother), ?_⟩
        rw [List.map_singleton, List.mem_singleton]
        intro hsame
        exact hdistinct.1 (List.mem_map.2 ⟨other, hother, hsame⟩)

/-- **`list` raises for no edge.**  When the edges it reads are consistent and each of
their bodies was read before, it raises only where a body record itself is malformed. -/
theorem listBodies_error {nodes : List Fields} {error : PyError} (hstore : Consistent store)
    (hcovered : ∀ body agent, Assigned store body agent →
      ∃ row ∈ nodes, row.get? "id" = some (.str (canonicalRecordId body)))
    (h : listBodies nodes (rows store "assigned_to") = .error error) :
    nodes.mapM parseBody = .error error := by
  have hentries : ∀ entry ∈ Surreal.selectTable store "assigned_to",
      ∃ body agent content, entry.2 = ⟨some (body, agent), content⟩ ∧
        body.IsBody ∧ agent.IsAgent ∧ Assigned store body agent := by
    rintro ⟨id, stored⟩ hentry
    obtain ⟨hlookup, htable⟩ := Surreal.mem_selectTable.1 hentry
    obtain ⟨body, agent, content, rfl, hbody, hagent, -, -⟩ :=
      hstore.joins id stored hlookup htable
    exact ⟨body, agent, content, rfl, hbody, hagent, id, content, htable, hlookup⟩
  have hdistinct : ((Surreal.selectTable store "assigned_to").map fun entry =>
      (assignmentText entry).1).Nodup := by
    have hids := AList.nodup_select (fun id (_ : StoredRecord) => id.table_name == "assigned_to")
      store
    rw [List.Nodup, List.pairwise_map] at hids ⊢
    refine hids.imp_of_mem fun {entry entry'} hentry hentry' hne hsame => hne ?_
    obtain ⟨id, stored⟩ := entry
    obtain ⟨id', stored'⟩ := entry'
    obtain ⟨body, agent, content, rfl, hbody, -, -⟩ := hentries _ hentry
    obtain ⟨body', agent', content', rfl, hbody', -, -⟩ := hentries _ hentry'
    obtain ⟨hlookup, htable⟩ := Surreal.mem_selectTable.1 hentry
    obtain ⟨hlookup', htable'⟩ := Surreal.mem_selectTable.1 hentry'
    cases canonicalRecordId_injective hbody.1 hbody'.1 hsame
    exact hstore.single id id' body agent agent' content content' htable htable' hlookup hlookup'
  have hcollect : (rows store "assigned_to").foldlM collectAssignment []
      = .ok ((Surreal.selectTable store "assigned_to").map assignmentText) := by
    rw [rows, collectAssignment_rows (fun entry hentry => ?_) hdistinct (by simp), List.nil_append]
    obtain ⟨body, agent, content, hstored, hbody, hagent, -⟩ := hentries entry hentry
    exact ⟨body, agent, content, hstored, hbody, hagent⟩
  rw [listBodies, hcollect] at h
  cases hnodes : nodes.foldlM collectBody
      ((Surreal.selectTable store "assigned_to").map assignmentText, []) with
  | error e =>
      simp only [hnodes, bind, Except.bind] at h
      cases h
      exact collectBody_error hnodes
  | ok left =>
      -- every assignment is of a body that was read, so none is left
      have hnone : left.1 = [] := by
        refine List.eq_nil_iff_forall_not_mem.2 fun assignment hassignment => ?_
        obtain ⟨hmem, hunknown⟩ := collectBody_left hnodes hassignment
        obtain ⟨entry, hentry, rfl⟩ := List.mem_map.1 hmem
        obtain ⟨body, agent, content, hstored, -, -, hassigned⟩ := hentries entry hentry
        obtain ⟨row, hrow, hid⟩ := hcovered body agent hassigned
        exact hunknown row hrow (by rw [hid, assignmentText, hstored])
      simp only [hnodes, bind, Except.bind, hnone, raiseIf] at h
      cases h

/-! ### The ids that a method carries -/

/-- The ids of a purpose are typed. -/
def Purpose.Typed : Purpose → Prop
  | .list | .get _ | .catalog _ => True
  | .create body | .update body => isTypedId "embodiment" body.id = true
  | .delete embodiment_id => isTypedId "embodiment" embodiment_id = true
  | .assign embodiment_id agent_id =>
      isTypedId "embodiment" embodiment_id = true ∧ isTypedId "agent" agent_id = true

/-- The ids of a stage are typed. -/
def BodyStage.Typed : BodyStage → Prop
  | .readAgents | .done _ => True
  | .readNodes purpose | .readEdges _ purpose => purpose.Typed
  | .checkAgent current agent_id =>
      isTypedId "embodiment" current.id = true ∧ isTypedId "agent" agent_id = true
  | .commit transaction _ | .run transaction _ => transaction.Typed

theorem orRaise_typed {stage : Except PyError BodyStage}
    (h : ∀ next, stage = .ok next → next.Typed) : (orRaise stage).Typed := by
  cases stage with
  | error e => trivial
  | ok next => exact h next rfl

theorem unassignedBody_typed {value : BodyInput} {body : Embodiment}
    (h : unassignedBody value = .ok body) : isTypedId "embodiment" body.id = true := by
  cases value with
  | body value typed =>
      simp only [unassignedBody, bind_eq_ok, pure_eq_ok] at h
      obtain ⟨_, rfl, _, -, _, -, rfl⟩ := h
      exact typed
  | mapping mapping =>
      simp only [unassignedBody, bind_eq_ok, pure_eq_ok] at h
      obtain ⟨_, -, parsed, hparsed, _, -, _, -, rfl⟩ := h
      simp only [embodimentFromMapping, bind_eq_ok, pure_eq_ok] at hparsed
      obtain ⟨item, -, items, -, geometry, -, frame, -, id, hid, name, -, type, -, agent, -,
        capabilities, -, rfl⟩ := hparsed
      exact isTypedId_of_typedId hid

theorem begin_typed (call : BodyCall) : (begin call).Typed := by
  cases call with
  | list | catalog => trivial
  | get embodiment_id =>
      refine orRaise_typed fun next h => ?_
      simp only [bind_eq_ok, pure_eq_ok] at h
      obtain ⟨_, -, rfl⟩ := h
      trivial
  | create value | update value =>
      refine orRaise_typed fun next h => ?_
      simp only [bind_eq_ok, pure_eq_ok] at h
      obtain ⟨body, hbody, rfl⟩ := h
      exact unassignedBody_typed hbody
  | delete embodiment_id =>
      refine orRaise_typed fun next h => ?_
      simp only [bind_eq_ok, pure_eq_ok] at h
      obtain ⟨parsed, hid, rfl⟩ := h
      cases typedId_eq_ok hid
      exact isTypedId_of_typedId hid
  | assign embodiment_id agent_id =>
      refine orRaise_typed fun next h => ?_
      simp only [bind_eq_ok, pure_eq_ok] at h
      obtain ⟨parsed, hid, parsed', hagent, rfl⟩ := h
      cases typedId_eq_ok hid
      cases typedId_eq_ok hagent
      exact ⟨isTypedId_of_typedId hid, isTypedId_of_typedId hagent⟩
  | unassign embodiment_id =>
      refine orRaise_typed fun next h => ?_
      simp only [bind_eq_ok, pure_eq_ok] at h
      obtain ⟨parsed, hid, record, hrecord, rfl⟩ := h
      cases typedId_eq_ok hid
      exact asRecordId_of_typed (isTypedId_of_typedId hid) hrecord

theorem findBody_id {bodies : List Embodiment} {embodiment_id : String} {body : Embodiment}
    (h : findBody bodies embodiment_id = .ok body) : body.id = embodiment_id := by
  rw [findBody] at h
  split at h
  case h_1 found hfound =>
    cases h
    simpa using List.find?_some hfound
  case h_2 => cases h

theorem afterList_typed {bodies : List Embodiment} {purpose : Purpose} {next : BodyStage}
    (hpurpose : purpose.Typed) (h : afterList bodies purpose = .ok next) : next.Typed := by
  cases purpose with
  | list =>
      cases h
      trivial
  | get embodiment_id | catalog agents =>
      simp only [afterList, bind_eq_ok, pure_eq_ok] at h
      obtain ⟨_, -, rfl⟩ := h
      trivial
  | create body =>
      simp only [afterList, bind_eq_ok, pure_eq_ok] at h
      obtain ⟨_, -, record, hrecord, rfl⟩ := h
      exact asRecordId_of_typed hpurpose hrecord
  | update body | delete embodiment_id =>
      simp only [afterList, bind_eq_ok, pure_eq_ok] at h
      obtain ⟨_, -, record, hrecord, rfl⟩ := h
      exact asRecordId_of_typed hpurpose hrecord
  | assign embodiment_id agent_id =>
      simp only [afterList, bind_eq_ok, pure_eq_ok] at h
      obtain ⟨current, hcurrent, rfl⟩ := h
      rw [BodyStage.Typed, findBody_id hcurrent]
      exact hpurpose

theorem afterAgents_typed {agents : List String} {current : Embodiment} {agent_id : String}
    {next : BodyStage} (hcurrent : isTypedId "embodiment" current.id = true)
    (hagent : isTypedId "agent" agent_id = true)
    (h : afterAgents agents current agent_id = .ok next) : next.Typed := by
  rw [afterAgents, bind_eq_ok] at h
  obtain ⟨_, -, h⟩ := h
  split at h
  · simp only [bind_eq_ok, pure_eq_ok] at h
    obtain ⟨_, -, rfl⟩ := h
    trivial
  · simp only [bind_eq_ok, pure_eq_ok] at h
    obtain ⟨body, hbody, agent, hrecord, rfl⟩ := h
    exact ⟨asRecordId_of_typed hcurrent hbody, asRecordId_of_typed hagent hrecord⟩

theorem advance_typed {stage : BodyStage} (h : stage.Typed) :
    (advance engine store stage).1.Typed := by
  cases stage with
  | readAgents => trivial
  | readNodes purpose => exact h
  | readEdges nodes purpose =>
      refine orRaise_typed fun next hnext => ?_
      rw [bind_eq_ok] at hnext
      obtain ⟨bodies, -, hnext⟩ := hnext
      exact afterList_typed h hnext
  | checkAgent current agent_id =>
      exact orRaise_typed fun next hnext => afterAgents_typed h.1 h.2 hnext
  | commit transaction body =>
      simp only [advance]
      split <;> trivial
  | run transaction embodiment_id =>
      simp only [advance]
      split
      · cases embodiment_id <;> trivial
      · trivial
  | done outcome => trivial

/-! ### Runs -/

/-- The body has a record among the rows. -/
def Listed (nodes : List Fields) (body : RecordID) : Prop :=
  ∃ row ∈ nodes, row.get? "id" = some (.str (canonicalRecordId body))

/-- An event that carries out the assignment of a body without one: its key is not the
key of the edge of another body, and every `list` between its two reads has read the
record of the body. -/
def Admissible (state : State) (event : Event) : Prop :=
  ∀ body agent, event.transaction state = some (.assign body agent) →
    (∀ other, ¬Assigned state.store body other) →
      (∀ other target content, state.store.lookup (BodyTransaction.edgeId body)
        = some ⟨some (other, target), content⟩ → other = body) ∧
      ∀ nodes purpose, .readEdges nodes purpose ∈ state.calls → Listed nodes body

/-- The states of the runs whose events are all admissible. -/
inductive Run (engine : Engine) (initial : State) : State → Prop
  | start : Run engine initial initial
  | next {state after : State} {event : Event} (run : Run engine initial state)
      (step : Step engine state event after) (admissible : Admissible state event) :
      Run engine initial after

/-- What every admissible event keeps. -/
structure Sound (state : State) : Prop where
  store : Consistent state.store
  typed : ∀ stage ∈ state.calls, stage.Typed
  covered : ∀ nodes purpose, .readEdges nodes purpose ∈ state.calls →
    ∀ body agent, Assigned state.store body agent → Listed nodes body

/-- What an event does to assignments: only `delete` and `unassign` of a body take its
agent away, and only `assign` gives it one, when it has none. -/
structure Keeps (state : State) (event : Event) (after : State) : Prop where
  kept : ∀ body agent, Assigned state.store body agent →
    Assigned after.store body agent ∨ event.transaction state = some (.delete body) ∨
      event.transaction state = some (.unassign body)
  given : ∀ body agent, Assigned after.store body agent →
    Assigned state.store body agent ∨ event.transaction state = some (.assign body agent) ∧
      ∀ other, ¬Assigned state.store body other

theorem advance_store (stage : BodyStage) :
    (advance engine store stage).2 = store ∨
      ∃ transaction, ((∃ body, stage = .commit transaction body) ∨
          ∃ embodiment_id, stage = .run transaction embodiment_id) ∧
        transaction.exec engine store = some (advance engine store stage).2 := by
  cases stage with
  | readAgents | readNodes | readEdges | checkAgent | done => exact Or.inl rfl
  | commit transaction body =>
      cases h : transaction.exec engine store with
      | none => exact Or.inl (by simp [advance, h])
      | some after => exact Or.inr ⟨transaction, Or.inl ⟨body, rfl⟩, by simp [advance, h]⟩
  | run transaction embodiment_id =>
      cases h : transaction.exec engine store with
      | none => exact Or.inl (by simp [advance, h])
      | some after => exact Or.inr ⟨transaction, Or.inr ⟨embodiment_id, rfl⟩, by simp [advance, h]⟩

/-- The database call of a sound state keeps the store consistent, and every list that
is under way stays covered. -/
theorem advance_sound {state : State} {event : Event} {stage : BodyStage} (h : Sound state)
    (hstage : stage ∈ state.calls) (hadmissible : Admissible state event)
    (hevent : ∀ transaction, ((∃ body, stage = .commit transaction body) ∨
      ∃ embodiment_id, stage = .run transaction embodiment_id) →
        event.transaction state = some transaction) (calls : List BodyStage) :
    Consistent (advance engine state.store stage).2 ∧
      Keeps state event ⟨(advance engine state.store stage).2, calls⟩ ∧
      ∀ nodes purpose, .readEdges nodes purpose ∈ state.calls → ∀ body agent,
        Assigned (advance engine state.store stage).2 body agent → Listed nodes body := by
  rcases @advance_store state.store engine stage with hsame | ⟨transaction, hstages, hexec⟩
  · rw [hsame]
    exact ⟨h.store, ⟨fun _ _ => Or.inl, fun _ _ => Or.inl⟩, h.covered⟩
  · have htransaction := hevent transaction hstages
    have htyped : transaction.Typed := by
      rcases hstages with ⟨body, rfl⟩ | ⟨embodiment_id, rfl⟩ <;> exact h.typed _ hstage
    generalize (advance engine state.store stage).2 = after at hexec
    rcases exec_cases htyped hexec with hedges | ⟨body, hdeletes, hedges⟩ |
      ⟨body, agent, rfl, hbody, hagent, hnone, rfl⟩
    · refine ⟨hedges.consistent h.store, ⟨?_, ?_⟩, ?_⟩
      · exact fun body agent hassigned => Or.inl (hedges.assigned.2 hassigned)
      · exact fun body agent hassigned => Or.inl (hedges.assigned.1 hassigned)
      · exact fun nodes purpose hcall body agent hassigned =>
          h.covered nodes purpose hcall body agent (hedges.assigned.1 hassigned)
    · have hisBody : body.IsBody := by
        rcases hdeletes with rfl | rfl <;> exact htyped
      refine ⟨hedges.consistent hisBody h.store, ⟨?_, ?_⟩, ?_⟩
      · intro other agent hassigned
        by_cases hother : other = body
        · subst hother
          rw [htransaction]
          rcases hdeletes with rfl | rfl
          · exact Or.inr (Or.inl rfl)
          · exact Or.inr (Or.inr rfl)
        · exact Or.inl (hedges.assigned.2 ⟨hassigned, hother⟩)
      · exact fun other agent hassigned => Or.inl (hedges.assigned.1 hassigned).1
      · exact fun nodes purpose hcall other agent hassigned =>
          h.covered nodes purpose hcall other agent (hedges.assigned.1 hassigned).1
    · obtain ⟨hkey, hlisted⟩ := hadmissible body agent htransaction hnone
      have hfree : state.store.lookup (BodyTransaction.edgeId body) = none := by
        cases hlookup : state.store.lookup (BodyTransaction.edgeId body) with
        | none => rfl
        | some stored =>
            obtain ⟨other, target, content, rfl, -⟩ := h.store.joins _ stored hlookup rfl
            cases hkey other target content hlookup
            exact absurd ⟨_, content, rfl, hlookup⟩ (hnone target)
      obtain ⟨hconsistent, hassigned⟩ := relate_consistent
        htyped.1 htyped.2 hbody hagent h.store hnone hfree
      refine ⟨hconsistent, ⟨?_, ?_⟩, ?_⟩
      · exact fun other target hold => Or.inl ((hassigned other target).2 (Or.inl hold))
      · intro other target hnew
        rcases (hassigned other target).1 hnew with hold | ⟨rfl, rfl⟩
        · exact Or.inl hold
        · exact Or.inr ⟨htransaction, hnone⟩
      · intro nodes purpose hcall other target hnew
        rcases (hassigned other target).1 hnew with hold | ⟨rfl, rfl⟩
        · exact h.covered nodes purpose hcall other target hold
        · exact hlisted nodes purpose hcall

/-- The stages after a call has gone on, when the next one is typed and what it has
read covers the assignments. -/
theorem Sound.set {state : State} (h : Sound state) {index : Nat} {next : BodyStage}
    {after : Store} (hstore : Consistent after) (hnext : next.Typed)
    (hold : ∀ nodes purpose, .readEdges nodes purpose ∈ state.calls → ∀ body agent,
      Assigned after body agent → Listed nodes body)
    (hnew : ∀ nodes purpose, next = .readEdges nodes purpose → ∀ body agent,
      Assigned after body agent → Listed nodes body) :
    Sound ⟨after, state.calls.set index next⟩ := by
  refine ⟨hstore, ?_, ?_⟩
  · intro stage hstage
    rcases List.mem_or_eq_of_mem_set hstage with hstage | rfl
    · exact h.typed stage hstage
    · exact hnext
  · intro nodes purpose hcall
    rcases List.mem_or_eq_of_mem_set hcall with hcall | hcall
    · exact hold nodes purpose hcall
    · exact hnew nodes purpose hcall.symm

/-- A list that has just read the bodies has read every assigned one. -/
theorem listed_of_rows (hstore : Consistent store) (hassigned : Assigned store body agent) :
    Listed (rows store "embodiment") body := by
  obtain ⟨id, content, htable, hlookup⟩ := hassigned
  obtain ⟨_, _, _, heq, hbody, -, hin, -⟩ := hstore.joins id _ hlookup htable
  cases heq
  obtain ⟨stored, hstored⟩ := Option.isSome_iff_exists.1 hin
  refine ⟨Surreal.row body stored, List.mem_map.2 ⟨(body, stored), ?_, rfl⟩, rfl⟩
  exact Surreal.mem_selectTable.2 ⟨hstored, hbody.2⟩

theorem orRaise_eq_readEdges {next : Except PyError BodyStage} {nodes : List Fields}
    {purpose : Purpose} (h : orRaise next = .readEdges nodes purpose) :
    next = .ok (.readEdges nodes purpose) := by
  cases next with
  | error e => cases h
  | ok next => exact congrArg Except.ok h

/-- Only the first read of a list comes before the second, and it leaves the store. -/
theorem advance_readEdges {stage : BodyStage} {nodes : List Fields} {purpose : Purpose}
    (h : (advance engine store stage).1 = .readEdges nodes purpose) :
    nodes = rows store "embodiment" ∧ (advance engine store stage).2 = store := by
  cases stage with
  | readAgents | done => cases h
  | readNodes purpose =>
      cases h
      exact ⟨rfl, rfl⟩
  | readEdges nodes' purpose' =>
      have hnext := orRaise_eq_readEdges h
      rw [bind_eq_ok] at hnext
      obtain ⟨bodies, -, hnext⟩ := hnext
      cases purpose' <;> simp only [afterList, bind_eq_ok, pure_eq_ok, ok.injEq, reduceCtorEq,
        and_false, exists_false] at hnext
  | checkAgent current agent_id =>
      have hnext := orRaise_eq_readEdges h
      rw [afterAgents, bind_eq_ok] at hnext
      obtain ⟨_, -, hnext⟩ := hnext
      split at hnext <;> simp only [bind_eq_ok, pure_eq_ok, reduceCtorEq, and_false,
        exists_false] at hnext
  | commit transaction body =>
      simp only [advance] at h
      split at h <;> cases h
  | run transaction embodiment_id =>
      simp only [advance] at h
      split at h
      · cases embodiment_id <;> cases h
      · cases h

/-- **Every admissible event keeps the assignments sound.** -/
theorem step_sound {state after : State} {event : Event} (h : Sound state)
    (hstep : Step engine state event after) (hadmissible : Admissible state event) :
    Sound after ∧ Keeps state event after := by
  cases hstep with
  | began call =>
      refine ⟨⟨h.store, ?_, ?_⟩, ⟨fun _ _ => Or.inl, fun _ _ => Or.inl⟩⟩
      · intro stage hstage
        rcases List.mem_append.1 hstage with hstage | hstage
        · exact h.typed stage hstage
        · rw [List.mem_singleton.1 hstage]
          exact begin_typed call
      · intro nodes purpose hcall
        rcases List.mem_append.1 hcall with hcall | hcall
        · exact h.covered nodes purpose hcall
        · have hbegin := (List.mem_singleton.1 hcall).symm
          cases call with
          | list | catalog => cases hbegin
          | get | create | update | delete | assign | unassign =>
              have hnext := orRaise_eq_readEdges hbegin
              simp only [bind_eq_ok, pure_eq_ok, reduceCtorEq, and_false, exists_false] at hnext
  | @answered index stage hstage =>
      have hmem := List.mem_of_getElem? hstage
      have hevent : ∀ transaction, ((∃ body, stage = .commit transaction body) ∨
          ∃ embodiment_id, stage = .run transaction embodiment_id) →
            (Event.answered index).transaction state = some transaction := by
        rintro transaction (⟨body, rfl⟩ | ⟨embodiment_id, rfl⟩) <;>
          simp [Event.transaction, hstage]
      obtain ⟨hstore, hkeeps, hcovered⟩ := @advance_sound engine _ _ _ h hmem hadmissible
        hevent (state.calls.set index (advance engine state.store stage).1)
      refine ⟨h.set hstore (advance_typed (h.typed stage hmem)) hcovered ?_, hkeeps⟩
      intro nodes purpose hnext body agent hassigned
      obtain ⟨rfl, hsame⟩ := advance_readEdges hnext
      rw [hsame] at hassigned
      exact listed_of_rows h.store hassigned
  | @refused index stage hstage =>
      exact ⟨h.set h.store trivial h.covered (by simp), ⟨fun _ _ => Or.inl, fun _ _ => Or.inl⟩⟩
  | @lost index stage hstage =>
      have hmem := List.mem_of_getElem? hstage
      have hevent : ∀ transaction, ((∃ body, stage = .commit transaction body) ∨
          ∃ embodiment_id, stage = .run transaction embodiment_id) →
            (Event.lost index).transaction state = some transaction := by
        rintro transaction (⟨body, rfl⟩ | ⟨embodiment_id, rfl⟩) <;>
          simp [Event.transaction, hstage]
      obtain ⟨hstore, hkeeps, hcovered⟩ := @advance_sound engine _ _ _ h hmem hadmissible
        hevent (state.calls.set index (.done (.error failed)))
      exact ⟨h.set hstore trivial hcovered (by simp), hkeeps⟩

theorem run_sound {initial state : State} (hinitial : Sound initial)
    (hrun : Run engine initial state) : Sound state := by
  induction hrun with
  | start => exact hinitial
  | next _ hstep hadmissible ih => exact (step_sound ih hstep hadmissible).1

/-- What should hold in every state reached. -/
structure SingleAssignment (engine : Engine) (state : State) : Prop where
  joins : ∀ id stored, state.store.lookup id = some stored → id.table_name = "assigned_to" →
    ∃ body agent content, stored = ⟨some (body, agent), content⟩ ∧ body.IsBody ∧ agent.IsAgent ∧
      (state.store.lookup body).isSome = true ∧ (state.store.lookup agent).isSome = true
  single : ∀ id id' body agent agent' content content',
    id.table_name = "assigned_to" → id'.table_name = "assigned_to" →
    state.store.lookup id = some ⟨some (body, agent), content⟩ →
    state.store.lookup id' = some ⟨some (body, agent'), content'⟩ → id = id'
  keeps : ∀ event after, Step engine state event after → Admissible state event →
    Keeps state event after
  update_keeps : ∀ event after body content, Step engine state event after →
    event.transaction state = some (.update body content) →
      ∀ other agent, Assigned after.store other agent ↔ Assigned state.store other agent
  list_raises : ∀ nodes purpose error, .readEdges nodes purpose ∈ state.calls →
    listBodies nodes (rows state.store "assigned_to") = .error error →
      nodes.mapM parseBody = .error error

theorem Sound.singleAssignment {state : State} (h : Sound state) :
    SingleAssignment engine state where
  joins := h.store.joins
  single := h.store.single
  keeps event after hstep hadmissible := (step_sound h hstep hadmissible).2
  update_keeps event after body content hstep hupdate other agent := by
    have hadmissible : Admissible state event := by
      intro body agent hassign
      rw [hupdate] at hassign
      cases hassign
    obtain ⟨hkept, hgiven⟩ := (step_sound h hstep hadmissible).2
    constructor
    · intro hassigned
      rcases hgiven other agent hassigned with hold | ⟨hassign, -⟩
      · exact hold
      · rw [hupdate] at hassign
        cases hassign
    · intro hassigned
      rcases hkept other agent hassigned with hnew | hdelete | hunassign
      · exact hnew
      · rw [hupdate] at hdelete
        cases hdelete
      · rw [hupdate] at hunassign
        cases hunassign
  list_raises nodes purpose error hcall := listBodies_error h.store (h.covered nodes purpose hcall)

/-- **Single assignment.**  From a store with consistent assignments, in every run whose
events are admissible, a body has at most one edge, which joins stored records; its
agent changes by `delete` and `unassign` only, and `list` raises for no edge. -/
theorem runs_single_assignment {initial state : State} (hstore : Consistent initial.store)
    (hidle : initial.calls = []) (hrun : Run engine initial state) :
    SingleAssignment engine state := by
  have hinitial : Sound initial := by
    refine ⟨hstore, ?_, ?_⟩
    · rw [hidle]
      simp
    · rw [hidle]
      simp
  exact (run_sound hinitial hrun).singleAssignment

/-! ### The list that is torn -/

/-- A body with a name. -/
def duck : Embodiment := ⟨"embodiment:duck", "Duck", none, none, none, [], "duck"⟩

/-- A store with one agent. -/
def butlerStore : Store := Surreal.upsert dropNulls ∅ ⟨"agent", "butler"⟩ []

theorem butlerStore_consistent : Consistent butlerStore := by
  have hlookup : ∀ id stored, butlerStore.lookup id = some stored → id = ⟨"agent", "butler"⟩ := by
    intro id stored h
    by_contra hne
    rw [butlerStore, Surreal.upsert, AList.lookup_insert_ne hne, AList.lookup_empty] at h
    cases h
  constructor
  · intro id stored h htable
    rw [hlookup id stored h] at htable
    simp at htable
  · intro id id' body agent agent' content content' htable htable' h h'
    rw [hlookup id _ h, hlookup id' _ h']

/-- A list reads the bodies; a body is created and assigned; the list reads the edges. -/
def tornEvents : List Event := [.began .list, .answered 0,
  .began (.create (.body duck (by decide))), .answered 1, .answered 1, .answered 1,
  .began (.assign "embodiment:duck" "agent:butler"), .answered 2, .answered 2, .answered 2,
  .answered 2]

/-- The database of the examples. -/
def plainEngine : Engine := ⟨dropNulls, Fields.merge⟩

/-- **A torn list.**  From a store without assignments, `list` raises for an edge that
`assign` has related between its two reads, to a body it has not read. -/
theorem tornEvents_not_single :
    Consistent butlerStore ∧ ∃ state,
      tornEvents.foldlM (perform plainEngine) ⟨butlerStore, []⟩ = some state ∧
      (perform plainEngine state (.answered 0)).bind (fun after => after.calls.head?)
        = some (.done (.error (.spatialContract
          "assigned_to references an unknown embodiment"))) ∧
      ¬SingleAssignment plainEngine state := by
  refine ⟨butlerStore_consistent, _, rfl, rfl, fun h => ?_⟩
  have hraises := h.list_raises [] .list (.spatialContract
    "assigned_to references an unknown embodiment") List.mem_cons_self rfl
  cases hraises

/-- A store with a body and an agent. -/
def duckStore : Store :=
  Surreal.upsert dropNulls butlerStore ⟨"embodiment", "duck"⟩ (bodyContent duck)

theorem duckStore_consistent : Consistent duckStore :=
  SameEdges.consistent (sameEdges_insert ⟨by decide, rfl⟩ _) butlerStore_consistent

/-- An event without a transaction is admissible. -/
theorem Run.perform {initial state after : State} (h : Run engine initial state) (event : Event)
    (hperform : perform engine state event = some after)
    (hnone : event.transaction state = none) : Run engine initial after := by
  refine h.next (step_of_perform hperform) fun body agent hassign => ?_
  rw [hnone] at hassign
  cases hassign

/-- The body is assigned, in a run whose last event carries the transaction out. -/
theorem duckStore_single : ∃ state, Assigned state.store ⟨"embodiment", "duck"⟩ ⟨"agent", "butler"⟩ ∧
    SingleAssignment plainEngine state := by
  have hstart : Run plainEngine ⟨duckStore, []⟩ ⟨duckStore, []⟩ := .start
  have hbefore := (((hstart.perform (.began (.assign "embodiment:duck" "agent:butler")) rfl
    rfl).perform (.answered 0) rfl rfl).perform (.answered 0) rfl rfl).perform (.answered 0) rfl rfl
  have hrun := hbefore.next
    (step_of_perform (show perform plainEngine _ (.answered 0) = some _ from rfl)) ?_
  · exact ⟨_, ⟨⟨"assigned_to", "embodiment_duck"⟩, [], rfl, rfl⟩,
      runs_single_assignment duckStore_consistent rfl hrun⟩
  · intro body agent hassign
    cases hassign
    refine fun _ => ⟨fun other target content h => ?_, fun nodes purpose hcall => ?_⟩
    · cases h
    · cases List.mem_singleton.1 hcall

end EmbodimentWriting
end HomeCortex
