/-
# Writing bodies and their assignments

`mutation/embodiments.py`.  `EmbodimentWritingService` keeps the assignment of a body
to an agent as an edge of `assigned_to`.  A method reads what is stored, decides, and
runs one transaction that checks again.  Each database call is atomic, and anything
may happen between two calls, so a method is the sequence of its stages here
(`BodyStage`): `advance` makes the next database call and goes on to the next stage.

The lock of a service instance orders the writes of that instance only.  It is left
out: the runs of any number of instances, with their locks, are among the
interleavings of `Step`.  A database call may also be refused, or take effect and
lose its answer, and then the method raises.
-/

import HomeCortex.Agents.Connections
import HomeCortex.Mutation.Transactions

namespace HomeCortex

open Spatial

/-- The transactions of the service. -/
inductive BodyTransaction where
  | create (body : RecordID) (content : Fields)
  | update (body : RecordID) (content : Fields)
  | delete (body : RecordID)
  | assign (body agent : RecordID)
  | unassign (body : RecordID)
deriving DecidableEq

namespace BodyTransaction

/-- The key of the edge of a body; it is a function of the body alone. -/
def edgeId (body : RecordID) : RecordID := ⟨"assigned_to", implicitEdgeComponent body⟩

/-- `SELECT VALUE out FROM assigned_to WHERE in = $body`. -/
def assignedAgents (store : Store) (body : RecordID) : List RecordID :=
  (store.select fun id stored => id.table_name == "assigned_to" && stored.startsAt body).filterMap
    fun edge => edge.2.endpoints.map Prod.snd

/-- The transaction; `none` when a guard throws. -/
def exec (engine : Engine) (store : Store) : BodyTransaction → Option Store
  | .create body content => engine.transact store [.throwIfPresent body, .create body content]
  | .update body content =>
      match store.lookup body with
      | some stored => some (store.insert body ⟨stored.endpoints, engine.keep content⟩)
      | none => none
  | .delete body =>
      engine.transact store [.throwIfMissing body, .deleteOutgoing "assigned_to" body,
        .delete body]
  | .assign body agent => do
      let store ← engine.transact store [.throwIfMissing body, .throwIfMissing agent]
      match assignedAgents store body with
      | [] => engine.transact store [.relate (edgeId body) body agent []]
      | [current] => if current = agent then some store else none
      | _ => none
  | .unassign body =>
      engine.transact store [.throwIfMissing body, .deleteOutgoing "assigned_to" body]

end BodyTransaction

namespace EmbodimentWriting

/-! ### What `list` makes of the rows it has read -/

/-- `edge[field]`. -/
def edgeField (edge : Fields) (field : String) : Except PyError Json :=
  match edge.get? field with
  | some value => .ok value
  | none => .error (.key field)

/-- One edge of `assigned_to`. -/
def collectAssignment (assignments : List (String × String)) (edge : Fields) :
    Except PyError (List (String × String)) := do
  let source ← edgeField edge "in"
  let target ← edgeField edge "out"
  let body_id ← typedId source "embodiment" "assigned_to.in"
  let agent_id ← typedId target "agent" "assigned_to.out"
  raiseIf ((assignments.map Prod.fst).contains body_id)
    (.spatialContract ("multiple assignments for '" ++ body_id ++ "'"))
  return assignments ++ [(body_id, agent_id)]

/-- One body record, without its assignment. -/
def parseBody (node : Fields) : Except PyError Embodiment := do
  raiseIf (node.has "agent_id")
    (.spatialContract "legacy embodiment.agent_id must be migrated to assigned_to")
  embodimentFromMapping (.obj node)

/-- `replace(body, agent_id=assignments.pop(body.id, None))`. -/
def collectBody (state : List (String × String) × List Embodiment) (node : Fields) :
    Except PyError (List (String × String) × List Embodiment) := do
  let body ← parseBody node
  return (state.1.filter fun assignment => assignment.1 != body.id,
    state.2 ++ [{ body with agent_id := state.1.lookup body.id }])

/-- `list`, after its two reads. -/
def listBodies (nodes edges : List Fields) : Except PyError (List Embodiment) := do
  let assignments ← edges.foldlM collectAssignment []
  let (unknown, bodies) ← nodes.foldlM collectBody (assignments, [])
  raiseIf (!unknown.isEmpty)
    (.spatialContract "assigned_to references an unknown embodiment")
  return bodies.insertionSort fun a b => a.id ≤ b.id

/-- `get`, after `list`. -/
def findBody (bodies : List Embodiment) (embodiment_id : String) : Except PyError Embodiment :=
  match bodies.find? fun body => body.id == embodiment_id with
  | some body => .ok body
  | none => .error (.spatialContract ("unknown embodiment '" ++ embodiment_id ++ "'"))

/-- `_rows`: an absent table has no rows. -/
def rows (store : Store) (table : String) : List Fields :=
  (Surreal.selectTable store table).map fun entry => Surreal.row entry.1 entry.2

/-- The ids of rows. -/
def rowIds (rows : List Fields) : List String :=
  rows.filterMap fun row => match row.getD "id" with
    | .str id => some id
    | _ => none

/-! ### The methods and their stages -/

/-- The argument of `create` and `update`; the constructor of `Embodiment` has checked
its id. -/
inductive BodyInput where
  | body (value : Embodiment) (typed : isTypedId "embodiment" value.id = true)
  | mapping (value : Fields)

/-- A call of a method. -/
inductive BodyCall where
  | list
  | get (embodiment_id : String)
  | catalog
  | create (value : BodyInput)
  | update (value : BodyInput)
  | delete (embodiment_id : String)
  | assign (embodiment_id agent_id : String)
  | unassign (embodiment_id : String)

/-- What a method returns. -/
inductive BodyAnswer where
  | bodies (bodies : List Embodiment)
  | body (body : Embodiment)
  | catalog (catalog : EmbodimentCatalog)
  | nothing

/-- What a method does with the bodies that `list` gives it. -/
inductive Purpose where
  | list
  | get (embodiment_id : String)
  | catalog (agents : List String)
  | create (body : Embodiment)
  | update (body : Embodiment)
  | delete (embodiment_id : String)
  | assign (embodiment_id agent_id : String)

/-- The next database call of a method, or its end. -/
inductive BodyStage where
  | readAgents
  | readNodes (purpose : Purpose)
  | readEdges (nodes : List Fields) (purpose : Purpose)
  | checkAgent (current : Embodiment) (agent_id : String)
  | commit (transaction : BodyTransaction) (body : Embodiment)
  | run (transaction : BodyTransaction) (embodiment_id : Option String)
  | done (outcome : Except PyError BodyAnswer)

/-- The next stage, unless what comes before it raises. -/
def orRaise : Except PyError BodyStage → BodyStage
  | .ok stage => stage
  | .error error => .done (.error error)

/-- `_unassigned_body`. -/
def unassignedBody (value : BodyInput) : Except PyError Embodiment := do
  let assigned := PyError.spatialContract "assignment must use assign(), not embodiment.agent_id"
  let body ← match value with
    | .body body _ => pure body
    | .mapping mapping => do
        raiseIf (mapping.has "agent_id") assigned
        embodimentFromMapping (.obj mapping)
  raiseIf body.agent_id.isSome assigned
  raiseIf (body.embodiment_type == "unspecified")
    (.spatialContract "embodiment_type is required for persistent writes")
  return body

/-- `_content`. -/
def bodyContent (body : Embodiment) : Fields := (embodimentAsMapping body).without ["id"]

/-- The checks of a method before its first database call. -/
def begin : BodyCall → BodyStage
  | .list => .readNodes .list
  | .get embodiment_id => orRaise do
      let _ ← typedId (.str embodiment_id) "embodiment" "embodiment_id"
      return .readNodes (.get embodiment_id)
  | .catalog => .readAgents
  | .create value => orRaise do return .readNodes (.create (← unassignedBody value))
  | .update value => orRaise do return .readNodes (.update (← unassignedBody value))
  | .delete embodiment_id => orRaise do
      let _ ← typedId (.str embodiment_id) "embodiment" "embodiment_id"
      return .readNodes (.delete embodiment_id)
  | .assign embodiment_id agent_id => orRaise do
      let _ ← typedId (.str embodiment_id) "embodiment" "embodiment_id"
      let _ ← typedId (.str agent_id) "agent" "agent_id"
      return .readNodes (.assign embodiment_id agent_id)
  | .unassign embodiment_id => orRaise do
      let _ ← typedId (.str embodiment_id) "embodiment" "embodiment_id"
      return .run (.unassign (← asRecordId embodiment_id)) (some embodiment_id)

/-- What a method does after `list`. -/
def afterList (bodies : List Embodiment) : Purpose → Except PyError BodyStage
  | .list => .ok (.done (.ok (.bodies bodies)))
  | .get embodiment_id => do return .done (.ok (.body (← findBody bodies embodiment_id)))
  | .catalog agents => do
      return .done (.ok (.catalog (← EmbodimentCatalog.ofBodies bodies agents)))
  | .create body => do
      raiseIf (bodies.any fun existing => existing.id == body.id)
        (.spatialContract ("embodiment '" ++ body.id ++ "' already exists"))
      return .commit (.create (← asRecordId body.id) (bodyContent body)) body
  | .update body => do
      let _ ← findBody bodies body.id
      return .run (.update (← asRecordId body.id) (bodyContent body)) (some body.id)
  | .delete embodiment_id => do
      let _ ← findBody bodies embodiment_id
      return .run (.delete (← asRecordId embodiment_id)) none
  | .assign embodiment_id agent_id => do
      return .checkAgent (← findBody bodies embodiment_id) agent_id

/-- What `assign` does after it has read the agents. -/
def afterAgents (agents : List String) (current : Embodiment) (agent_id : String) :
    Except PyError BodyStage := do
  raiseIf (!agents.contains agent_id)
    (.spatialContract ("unknown controlling agent '" ++ agent_id ++ "'"))
  match current.agent_id with
  | some assigned =>
      raiseIf (assigned != agent_id)
        (.spatialContract ("embodiment '" ++ current.id ++ "' is already assigned to '" ++
          assigned ++ "'"))
      return .done (.ok (.body current))
  | none => return .run (.assign (← asRecordId current.id) (← asRecordId agent_id)) (some current.id)

/-- The error of a transaction whose guard throws. -/
def thrown : PyError := .runtime "transaction cancelled by THROW"

/-- The next database call of a method on a store, and the stage after it. -/
def advance (engine : Engine) (store : Store) : BodyStage → BodyStage × Store
  | .readAgents => (.readNodes (.catalog (rowIds (rows store "agent"))), store)
  | .readNodes purpose => (.readEdges (rows store "embodiment") purpose, store)
  | .readEdges nodes purpose =>
      (orRaise do afterList (← listBodies nodes (rows store "assigned_to")) purpose, store)
  | .checkAgent current agent_id =>
      (orRaise (afterAgents (rowIds (rows store "agent")) current agent_id), store)
  | .commit transaction body =>
      match transaction.exec engine store with
      | some after => (.done (.ok (.body body)), after)
      | none => (.done (.error thrown), store)
  | .run transaction embodiment_id =>
      match transaction.exec engine store with
      | some after =>
          (match embodiment_id with
            | some embodiment_id => .readNodes (.get embodiment_id)
            | none => .done (.ok .nothing), after)
      | none => (.done (.error thrown), store)
  | .done outcome => (.done outcome, store)

/-- The store and the stages of the calls, in the order in which they began. -/
structure State where
  store : Store
  calls : List BodyStage

/-- What happens next: a call begins, or the database call of the call at an index is
answered, refused, or carried out with its answer lost. -/
inductive Event where
  | began (call : BodyCall)
  | answered (index : Nat)
  | refused (index : Nat)
  | lost (index : Nat)

/-- A failed database call. -/
def failed : PyError := .runtime "database call failed"

/-- One event. -/
inductive Step (engine : Engine) : State → Event → State → Prop
  | began (state : State) (call : BodyCall) :
      Step engine state (.began call) ⟨state.store, state.calls ++ [begin call]⟩
  | answered {state : State} {index : Nat} {stage : BodyStage}
      (h : state.calls[index]? = some stage) :
      Step engine state (.answered index) ⟨(advance engine state.store stage).2,
        state.calls.set index (advance engine state.store stage).1⟩
  | refused {state : State} {index : Nat} {stage : BodyStage}
      (h : state.calls[index]? = some stage) :
      Step engine state (.refused index) ⟨state.store,
        state.calls.set index (.done (.error failed))⟩
  | lost {state : State} {index : Nat} {stage : BodyStage}
      (h : state.calls[index]? = some stage) :
      Step engine state (.lost index) ⟨(advance engine state.store stage).2,
        state.calls.set index (.done (.error failed))⟩

/-- The state after an event, when there is a call at its index. -/
def perform (engine : Engine) (state : State) : Event → Option State
  | .began call => some ⟨state.store, state.calls ++ [begin call]⟩
  | .answered index => do
      let next := advance engine state.store (← state.calls[index]?)
      return ⟨next.2, state.calls.set index next.1⟩
  | .refused index => do
      let _ ← state.calls[index]?
      return ⟨state.store, state.calls.set index (.done (.error failed))⟩
  | .lost index => do
      let next := advance engine state.store (← state.calls[index]?)
      return ⟨next.2, state.calls.set index (.done (.error failed))⟩

theorem step_of_perform {engine : Engine} {state after : State} {event : Event}
    (h : perform engine state event = some after) : Step engine state event after := by
  cases event with
  | began call =>
      cases h
      exact .began state call
  | answered index | refused index | lost index =>
      simp only [perform, Option.bind_eq_bind, Option.bind_eq_some_iff] at h
      obtain ⟨stage, hstage, h⟩ := h
      cases h
      constructor
      exact hstage

/-- The transaction that an event carries out. -/
def Event.transaction (state : State) : Event → Option BodyTransaction
  | .answered index | .lost index =>
      match state.calls[index]? with
      | some (.commit transaction _) | some (.run transaction _) => some transaction
      | _ => none
  | .began _ | .refused _ => none

end EmbodimentWriting
end HomeCortex
