/-
# The logged plan of a fact query

`_plan_for_log` of `semantic/facts.py`: the JSON dump of a request with the user's
literals (the values of references and of filters) replaced by `[redacted]`.  The
redaction walks the subject, the other reference and the request's own filters; it
does not walk the excluded references (`planForLog_iff`).

How `model_dump` writes a float is a parameter.
-/

import HomeCortex.Semantic.Ir

namespace HomeCortex

/-! ### `model_dump(mode="json")` -/

/-- The literal of a reference kind. -/
def ReferenceKind.name : ReferenceKind → String
  | .self => "self"
  | .assistant => "assistant"
  | .currentHousehold => "current_household"
  | .namedEntity => "named_entity"
  | .discourse => "discourse"
  | .unresolved => "unresolved"
  | .entityId => "entity_id"

/-- The literal of a predicate operator. -/
def PredicateOperator.name : PredicateOperator → String
  | .eq => "eq"
  | .ne => "ne"
  | .gt => "gt"
  | .gte => "gte"
  | .lt => "lt"
  | .lte => "lte"
  | .isIn => "in"
  | .exists => "exists"
  | .dateRange => "date_range"

/-- An optional text in a dump. -/
def dumpText (text : Option String) : Json := (text.map Json.str).getD .null

section Dump

variable (dump_float : Float → Json)

/-- A scalar in a dump. -/
def dumpScalar : Json → Json
  | .float x => dump_float x
  | value => value

/-- The value of a filter in a dump; a tuple becomes a list. -/
def dumpOperand : Operand → Json
  | .scalar value => dumpScalar dump_float value
  | .tuple items => .arr (items.map (dumpScalar dump_float))

/-- `SemanticFilter.model_dump`. -/
def dumpFilter (item : SemanticFilter) : Json := .obj [
  ("property", dumpText item.property),
  ("predicate", dumpText item.predicate),
  ("operator", .str item.operator.name),
  ("value", dumpOperand dump_float item.value),
  ("source", .str (match item.source with
    | .entity => "entity"
    | .relation => "relation")),
  ("value_from", if item.anchored then .str "anchor" else .null),
  ("value_property", dumpText item.value_property),
  ("transform", if item.derived then .str "date_difference" else .null),
  ("mode", dumpText (item.mode.map DateUnit.name))]

/-- `SemanticRelationStep.model_dump`. -/
def dumpStep (step : SemanticRelationStep) : Json := .obj [
  ("relation", .str step.relation),
  ("filters", .arr (step.filters.map (dumpFilter dump_float)))]

/-- `SemanticReference.model_dump`. -/
def dumpReference (reference : SemanticReference) : Json := .obj [
  ("kind", .str reference.kind.name),
  ("value", dumpText reference.value),
  ("entity_type", dumpText reference.entity_type),
  ("path", .arr (reference.path.map (dumpStep dump_float))),
  ("turn_offset", (reference.turn_offset.map fun offset => Json.int offset).getD .null),
  ("cardinality", .str (match reference.cardinality with
    | .single => "single"
    | .collection => "collection"))]

/-- `SemanticFactRequest.model_dump`. -/
def modelDump (request : SemanticFactRequest) : Fields := [
  ("operation", .str request.operation.name),
  ("subject", dumpReference dump_float request.subject),
  ("property", dumpText request.property),
  ("property_source", .str (match request.property_source with
    | .entity => "entity"
    | .relationship => "relationship")),
  ("filters", .arr (request.filters.map (dumpFilter dump_float))),
  ("projection", .str (match request.projection with
    | .scalar => "scalar"
    | .each => "each")),
  ("exclude", .arr (request.exclude.map (dumpReference dump_float))),
  ("amount", (request.amount.map Json.int).getD .null),
  ("other", (request.other.map (dumpReference dump_float)).getD .null),
  ("mode", dumpText (request.mode.map DateUnit.name)),
  ("from_unit", dumpText request.from_unit),
  ("to_unit", dumpText request.to_unit)]

end Dump

/-! ### `_plan_for_log` -/

/-- `"[redacted]"`. -/
def redacted : Json := .str "[redacted]"

/-- `for item in fields.get(key, []): …` with what the body leaves of each item. -/
def updateItems (fields : Fields) (key : String) (body : Json → Json) : Fields :=
  match fields.get? key with
  | some (.arr items) => fields.set key (.arr (items.map body))
  | _ => fields

/-- The value of a path filter goes, also when it is `None`. -/
def redactPathFilter : Json → Json
  | .obj fields => .obj (if Fields.has fields "value" then Fields.set fields "value" redacted
      else fields)
  | item => item

/-- A value that is not `None` goes. -/
def redactValue (fields : Fields) : Fields :=
  if fields.getD "value" ≠ .null then fields.set "value" redacted else fields

/-- One step of the path of a reference. -/
def redactStep : Json → Json
  | .obj fields => .obj (updateItems fields "filters" redactPathFilter)
  | step => step

/-- One of the two references that the loop visits. -/
def redactReference (payload : Fields) (key : String) : Fields :=
  match payload.get? key with
  | some (.obj reference) =>
      payload.set key (.obj (updateItems (redactValue reference) "path" redactStep))
  | _ => payload

/-- A filter of the request. -/
def redactFilter : Json → Json
  | .obj fields => .obj (redactValue fields)
  | item => item

/-- `_plan_for_log`. -/
def planForLog (dump_float : Float → Json) (request : SemanticFactRequest) : Fields :=
  updateItems (["subject", "other"].foldl redactReference (modelDump dump_float request)) "filters"
    redactFilter

/-! ### What the log should not depend on -/

/-- Two filters that differ in their values only, where neither value is `None`. -/
structure SameFilter (a b : SemanticFilter) : Prop where
  fields : { a.toFilterFields with value := b.value } = b.toFilterFields
  presence : a.value = .scalar .null ↔ b.value = .scalar .null

/-- Two steps that differ in filter values only. -/
structure SameStep (a b : SemanticRelationStep) : Prop where
  relation : a.relation = b.relation
  filters : List.Forall₂ SameFilter a.filters b.filters

/-- Two references that differ in their values and in filter values only. -/
structure SameReference (a b : SemanticReference) : Prop where
  fields : { a.toReferenceFields with value := b.value, path := b.path } = b.toReferenceFields
  presence : a.value.isSome = b.value.isSome
  path : List.Forall₂ SameStep a.path b.path

/-- Two requests that differ in the user's literals only. -/
structure SameRequest (a b : SemanticFactRequest) : Prop where
  operation : a.operation = b.operation
  subject : SameReference a.subject b.subject
  property : a.property = b.property
  property_source : a.property_source = b.property_source
  filters : List.Forall₂ SameFilter a.filters b.filters
  projection : a.projection = b.projection
  exclude : List.Forall₂ SameReference a.exclude b.exclude
  amount : a.amount = b.amount
  other : Option.Rel SameReference a.other b.other
  mode : a.mode = b.mode
  from_unit : a.from_unit = b.from_unit
  to_unit : a.to_unit = b.to_unit

mutual

/-- A document without the values of its `value` fields. -/
def eraseValues : Json → Json
  | .arr items => .arr (eraseItems items)
  | .obj fields => .obj (eraseFields fields)
  | value => value

def eraseItems : List Json → List Json
  | [] => []
  | item :: items => eraseValues item :: eraseItems items

def eraseFields : List (String × Json) → List (String × Json)
  | [] => []
  | (key, value) :: fields =>
      (key, if key = "value" then .null else eraseValues value) :: eraseFields fields

end

section Logged

variable (dump_float : Float → Json)

/-- The log keeps every field of a request other than the values of references and
filters. -/
def KeepsRest (request : SemanticFactRequest) : Prop :=
  eraseFields (planForLog dump_float request) = eraseFields (modelDump dump_float request)

/-- The literals of two requests that the redaction leaves in the dump agree. -/
structure LoggedAlike (a b : SemanticFactRequest) : Prop where
  excluded : a.exclude.map (dumpReference dump_float) = b.exclude.map (dumpReference dump_float)
  nulls : List.Forall₂ (fun item other => dumpOperand dump_float item.value = .null ↔
    dumpOperand dump_float other.value = .null) a.filters b.filters

/-! ### The payload, field by field -/

/-- A path filter in the log. -/
def loggedPathFilter (item : SemanticFilter) : Json := redactPathFilter (dumpFilter dump_float item)

/-- A step in the log. -/
def loggedStep (step : SemanticRelationStep) : Json := .obj [
  ("relation", .str step.relation),
  ("filters", .arr (step.filters.map (loggedPathFilter dump_float)))]

/-- The subject or the other reference in the log. -/
def loggedReference (reference : SemanticReference) : Json := .obj [
  ("kind", .str reference.kind.name),
  ("value", if reference.value.isSome then redacted else .null),
  ("entity_type", dumpText reference.entity_type),
  ("path", .arr (reference.path.map (loggedStep dump_float))),
  ("turn_offset", (reference.turn_offset.map fun offset => Json.int offset).getD .null),
  ("cardinality", .str (match reference.cardinality with
    | .single => "single"
    | .collection => "collection"))]

theorem redactStep_dumpStep (step : SemanticRelationStep) :
    redactStep (dumpStep dump_float step) = loggedStep dump_float step := by
  simp [redactStep, dumpStep, loggedStep, loggedPathFilter, updateItems, Fields.get?_cons,
    Fields.set, Function.comp_def]

theorem redactReference_dump (reference : SemanticReference) (payload : Fields) (key : String)
    (h : payload.get? key = some (dumpReference dump_float reference)) :
    redactReference payload key = payload.set key (loggedReference dump_float reference) := by
  have hvalue : redactValue [
      ("kind", .str reference.kind.name),
      ("value", dumpText reference.value),
      ("entity_type", dumpText reference.entity_type),
      ("path", .arr (reference.path.map (dumpStep dump_float))),
      ("turn_offset", (reference.turn_offset.map fun offset => Json.int offset).getD .null),
      ("cardinality", .str (match reference.cardinality with
        | .single => "single"
        | .collection => "collection"))] = [
      ("kind", .str reference.kind.name),
      ("value", if reference.value.isSome then redacted else .null),
      ("entity_type", dumpText reference.entity_type),
      ("path", .arr (reference.path.map (dumpStep dump_float))),
      ("turn_offset", (reference.turn_offset.map fun offset => Json.int offset).getD .null),
      ("cardinality", .str (match reference.cardinality with
        | .single => "single"
        | .collection => "collection"))] := by
    cases reference.value <;> simp [redactValue, dumpText, Fields.getD, Fields.get?_cons, Fields.set]
  rw [redactReference, h, dumpReference]
  simp only [hvalue]
  simp [updateItems, Fields.get?_cons, Fields.set, loggedReference, Function.comp_def,
    redactStep_dumpStep]

/-- The payload of a request. -/
theorem planForLog_eq (request : SemanticFactRequest) :
    planForLog dump_float request = [
      ("operation", .str request.operation.name),
      ("subject", loggedReference dump_float request.subject),
      ("property", dumpText request.property),
      ("property_source", .str (match request.property_source with
        | .entity => "entity"
        | .relationship => "relationship")),
      ("filters", .arr (request.filters.map fun item => redactFilter (dumpFilter dump_float item))),
      ("projection", .str (match request.projection with
        | .scalar => "scalar"
        | .each => "each")),
      ("exclude", .arr (request.exclude.map (dumpReference dump_float))),
      ("amount", (request.amount.map Json.int).getD .null),
      ("other", (request.other.map (loggedReference dump_float)).getD .null),
      ("mode", dumpText (request.mode.map DateUnit.name)),
      ("from_unit", dumpText request.from_unit),
      ("to_unit", dumpText request.to_unit)] := by
  have hsubject := redactReference_dump dump_float request.subject (modelDump dump_float request)
    "subject" (by simp [modelDump, Fields.get?_cons])
  rw [planForLog, List.foldl_cons, hsubject, List.foldl_cons, List.foldl_nil]
  cases hother : request.other with
  | none =>
      simp [redactReference, updateItems, modelDump, hother, Fields.set, Fields.get?_cons,
        Function.comp_def]
  | some other =>
      rw [redactReference_dump dump_float other _ "other"
        (by simp [modelDump, hother, Fields.set, Fields.get?_cons])]
      simp [updateItems, modelDump, Fields.set, Fields.get?_cons, Function.comp_def]

/-! ### The redacted parts -/

/-- The dump of a filter whose value is `value`. -/
def filterDumpWith (value : Json) (item : SemanticFilter) : Json := .obj [
  ("property", dumpText item.property),
  ("predicate", dumpText item.predicate),
  ("operator", .str item.operator.name),
  ("value", value),
  ("source", .str (match item.source with
    | .entity => "entity"
    | .relation => "relation")),
  ("value_from", if item.anchored then .str "anchor" else .null),
  ("value_property", dumpText item.value_property),
  ("transform", if item.derived then .str "date_difference" else .null),
  ("mode", dumpText (item.mode.map DateUnit.name))]

theorem dumpFilter_eq (item : SemanticFilter) :
    dumpFilter dump_float item = filterDumpWith (dumpOperand dump_float item.value) item := rfl

theorem filterDumpWith_inj {item other : SemanticFilter} {value value' : Json}
    (h : filterDumpWith value item = filterDumpWith value' other) : value = value' := by
  simp only [filterDumpWith, Json.obj.injEq, List.cons.injEq, Prod.mk.injEq] at h
  exact h.2.2.2.1.2

theorem SameFilter.dump {a b : SemanticFilter} (h : SameFilter a b) (value : Json) :
    filterDumpWith value a = filterDumpWith value b := by
  have hproperty : a.property = b.property := by
    simpa using congrArg FilterFields.property h.fields
  have hpredicate : a.predicate = b.predicate := by
    simpa using congrArg FilterFields.predicate h.fields
  have hoperator : a.operator = b.operator := by
    simpa using congrArg FilterFields.operator h.fields
  have hsource : a.source = b.source := by
    simpa using congrArg FilterFields.source h.fields
  have hanchored : a.anchored = b.anchored := by
    simpa using congrArg FilterFields.anchored h.fields
  have hvalue : a.value_property = b.value_property := by
    simpa using congrArg FilterFields.value_property h.fields
  have hderived : a.derived = b.derived := by
    simpa using congrArg FilterFields.derived h.fields
  have hmode : a.mode = b.mode := by
    simpa using congrArg FilterFields.mode h.fields
  simp only [filterDumpWith, hproperty, hpredicate, hoperator, hsource, hanchored, hvalue, hderived,
    hmode]

/-- Every value of a path filter goes. -/
theorem loggedPathFilter_eq (item : SemanticFilter) :
    loggedPathFilter dump_float item = filterDumpWith redacted item := by
  rw [loggedPathFilter, dumpFilter_eq]
  simp [redactPathFilter, filterDumpWith, Fields.has, Fields.get?_cons, Fields.set]

/-- A value of a request filter that is written as something goes. -/
theorem redactFilter_eq (item : SemanticFilter) :
    redactFilter (dumpFilter dump_float item) =
      filterDumpWith (if dumpOperand dump_float item.value = .null then .null else redacted)
        item := by
  rw [dumpFilter_eq]
  by_cases h : dumpOperand dump_float item.value = .null <;>
    simp [redactFilter, redactValue, filterDumpWith, Fields.getD, Fields.get?_cons, Fields.set, h]

theorem SameFilter.redacted_iff {a b : SemanticFilter} (h : SameFilter a b) :
    redactFilter (dumpFilter dump_float a) = redactFilter (dumpFilter dump_float b) ↔
      (dumpOperand dump_float a.value = .null ↔ dumpOperand dump_float b.value = .null) := by
  rw [redactFilter_eq, redactFilter_eq, h.dump]
  constructor
  · intro heq
    have hvalue := filterDumpWith_inj heq
    by_cases ha : dumpOperand dump_float a.value = .null <;>
      by_cases hb : dumpOperand dump_float b.value = .null <;> simp_all [redacted]
  · intro hnull
    simp only [hnull]

theorem map_eq_map_of_forall₂ {α β : Type} {r : α → α → Prop} {f : α → β} {l l' : List α}
    (h : List.Forall₂ r l l') (hf : ∀ x y, r x y → f x = f y) : l.map f = l'.map f := by
  induction h with
  | nil => rfl
  | cons hxy _ ih => rw [List.map_cons, List.map_cons, hf _ _ hxy, ih]

theorem SameStep.logged {a b : SemanticRelationStep} (h : SameStep a b) :
    loggedStep dump_float a = loggedStep dump_float b := by
  have hfilters : a.filters.map (loggedPathFilter dump_float)
      = b.filters.map (loggedPathFilter dump_float) :=
    map_eq_map_of_forall₂ h.filters fun item other hitem => by
      rw [loggedPathFilter_eq, loggedPathFilter_eq, hitem.dump]
  simp only [loggedStep, h.relation, hfilters]

theorem SameReference.logged {a b : SemanticReference} (h : SameReference a b) :
    loggedReference dump_float a = loggedReference dump_float b := by
  have hkind : a.kind = b.kind := by
    simpa using congrArg ReferenceFields.kind h.fields
  have htype : a.entity_type = b.entity_type := by
    simpa using congrArg ReferenceFields.entity_type h.fields
  have hoffset : a.turn_offset = b.turn_offset := by
    simpa using congrArg ReferenceFields.turn_offset h.fields
  have hcardinality : a.cardinality = b.cardinality := by
    simpa using congrArg ReferenceFields.cardinality h.fields
  have hpath : a.path.map (loggedStep dump_float) = b.path.map (loggedStep dump_float) :=
    map_eq_map_of_forall₂ h.path fun _ _ hstep => hstep.logged dump_float
  simp only [loggedReference, hkind, htype, hoffset, hcardinality, hpath, h.presence]

theorem map_redactFilter_iff {items others : List SemanticFilter}
    (h : List.Forall₂ SameFilter items others) :
    (items.map fun item => redactFilter (dumpFilter dump_float item))
        = (others.map fun item => redactFilter (dumpFilter dump_float item)) ↔
      List.Forall₂ (fun item other => dumpOperand dump_float item.value = .null ↔
        dumpOperand dump_float other.value = .null) items others := by
  induction h with
  | nil => simp
  | cons hitem _ ih =>
      rw [List.map_cons, List.map_cons, List.cons.injEq, List.forall₂_cons,
        hitem.redacted_iff dump_float, ih]

/-! ### Erasing the values -/

theorem eraseItems_map {α : Type} {f g : α → Json} (h : ∀ x, eraseValues (f x) = eraseValues (g x))
    (l : List α) : eraseItems (l.map f) = eraseItems (l.map g) := by
  induction l with
  | nil => rfl
  | cons x l ih => rw [List.map_cons, List.map_cons, eraseItems, eraseItems, h, ih]

theorem erase_filterDumpWith (value value' : Json) (item : SemanticFilter) :
    eraseValues (filterDumpWith value item) = eraseValues (filterDumpWith value' item) := by
  simp [filterDumpWith, eraseValues, eraseFields]

theorem erase_loggedReference (reference : SemanticReference) :
    eraseValues (loggedReference dump_float reference)
      = eraseValues (dumpReference dump_float reference) := by
  have hstep : ∀ step : SemanticRelationStep,
      eraseValues (loggedStep dump_float step) = eraseValues (dumpStep dump_float step) := by
    intro step
    have hfilters : eraseItems (step.filters.map (loggedPathFilter dump_float))
        = eraseItems (step.filters.map (dumpFilter dump_float)) :=
      eraseItems_map (fun item => by
        rw [loggedPathFilter_eq, dumpFilter_eq]
        exact erase_filterDumpWith _ _ item) step.filters
    simp [loggedStep, dumpStep, eraseValues, eraseFields, hfilters]
  have hpath := eraseItems_map hstep reference.path
  simp [loggedReference, dumpReference, eraseValues, eraseFields, hpath]

/-- The log keeps the rest of every request. -/
theorem keepsRest (request : SemanticFactRequest) : KeepsRest dump_float request := by
  have hfilters : eraseItems (request.filters.map fun item => redactFilter (dumpFilter dump_float item))
      = eraseItems (request.filters.map (dumpFilter dump_float)) :=
    eraseItems_map (fun item => by
      rw [redactFilter_eq, dumpFilter_eq]
      exact erase_filterDumpWith _ _ item) request.filters
  have hother : eraseValues ((request.other.map (loggedReference dump_float)).getD .null)
      = eraseValues ((request.other.map (dumpReference dump_float)).getD .null) := by
    cases request.other with
    | none => rfl
    | some other => exact erase_loggedReference dump_float other
  rw [KeepsRest, planForLog_eq]
  simp only [modelDump, eraseFields, eraseValues, hfilters, hother, erase_loggedReference]

/-- **The log hides the user's literals, except in excluded references.**  Two requests
that differ in literals only have the same payload, which keeps the rest of both,
exactly when the literals of their excluded references are written alike (and no filter
value is written as `null` in one of them only). -/
theorem planForLog_iff {a b : SemanticFactRequest} (h : SameRequest a b) :
    (planForLog dump_float a = planForLog dump_float b ∧ KeepsRest dump_float a ∧
      KeepsRest dump_float b) ↔ LoggedAlike dump_float a b := by
  have hother : (a.other.map (loggedReference dump_float))
      = b.other.map (loggedReference dump_float) := by
    have hmap : ∀ o o', Option.Rel SameReference o o' →
        o.map (loggedReference dump_float) = o'.map (loggedReference dump_float) := by
      rintro o o' (hsame | _)
      · exact congrArg some (hsame.logged dump_float)
      · rfl
    exact hmap _ _ h.other
  rw [planForLog_eq, planForLog_eq, h.subject.logged, hother, h.operation, h.property,
    h.property_source, h.projection, h.amount, h.mode, h.from_unit, h.to_unit]
  constructor
  · rintro ⟨heq, -, -⟩
    simp only [List.cons.injEq, Prod.mk.injEq, true_and, Json.arr.injEq, and_true] at heq
    exact ⟨heq.2, (map_redactFilter_iff dump_float h.filters).1 heq.1⟩
  · rintro ⟨hexcluded, hnulls⟩
    rw [hexcluded, (map_redactFilter_iff dump_float h.filters).2 hnulls]
    exact ⟨rfl, keepsRest dump_float a, keepsRest dump_float b⟩

end Logged

/-- The reference to a person by name. -/
def personNamed (name : String) : ReferenceFields where
  kind := .namedEntity
  value := some name
  entity_type := some "person"

/-- The request for the record of a person by name. -/
def recordOf (name : String) (h : (personNamed name).valid = true) : SemanticFactRequest where
  operation := .inspect
  subject := ⟨personNamed name, h⟩
  exclude_bound := noExclude_bound
  amount_bound := noAmount_bound

/-- A name that is the subject is not logged. -/
theorem recordOf_logged :
    planForLog .float (recordOf "Alice" (by decide)) = planForLog .float (recordOf "Bob" (by decide)) :=
  have hsame : SameRequest (recordOf "Alice" (by decide)) (recordOf "Bob" (by decide)) :=
    ⟨rfl, ⟨rfl, rfl, .nil⟩, rfl, rfl, .nil, rfl, .nil, rfl, .none, rfl, rfl, rfl⟩
  ((planForLog_iff .float hsame).2 ⟨rfl, .nil⟩).1

/-- A request for the residents of the household other than the one named. -/
def residentsOtherThan (name : String) (h : (personNamed name).valid = true) :
    SemanticFactRequest where
  operation := .select
  subject := ⟨{ kind := .currentHousehold
                path := [⟨"resident", [], by decide⟩] }, by decide⟩
  exclude := [⟨personNamed name, h⟩]
  exclude_bound := by simp

theorem sameRequest_residents {name other : String} (h : (personNamed name).valid = true)
    (h' : (personNamed other).valid = true) :
    SameRequest (residentsOtherThan name h) (residentsOtherThan other h') where
  operation := rfl
  subject := ⟨rfl, rfl, .cons ⟨rfl, .nil⟩ .nil⟩
  property := rfl
  property_source := rfl
  filters := .nil
  projection := rfl
  exclude := .cons ⟨rfl, rfl, .nil⟩ .nil
  amount := rfl
  other := .none
  mode := rfl
  from_unit := rfl
  to_unit := rfl

/-- **The name of an excluded person is logged.**  Whoever is left out of the residents,
the rest of the request is the same, but not its payload. -/
theorem residentsOtherThan_logged :
    SameRequest (residentsOtherThan "Alice" (by decide)) (residentsOtherThan "Bob" (by decide)) ∧
      planForLog .float (residentsOtherThan "Alice" (by decide))
        ≠ planForLog .float (residentsOtherThan "Bob" (by decide)) :=
  ⟨sameRequest_residents _ _, by decide⟩

end HomeCortex
