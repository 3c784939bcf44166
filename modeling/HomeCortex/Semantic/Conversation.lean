/-
# Conversation state under concurrent turns

`SemanticConversationService.try_answer` of `semantic/conversation.py`, as a
transition system.  A call runs atomically between its awaits: it arrives and
registers with the state of its key (`arrive`), waits for the lock of that state
(`acquire`), hands its history and discourse context to the fact service and waits
for the answer, and then records the turn (`finish`), as it also does when the
service raises or the call is cancelled there (`fail`).  A call cancelled at the
lock (`cancel`) leaves no turn.  Calls without a key, and calls that find no state
capacity, answer statelessly (`replaying`).

A lock here is free or held; when it is free any waiting call may take it, which
admits every order `asyncio.Lock` may choose.  `recorded` is a ghost: all turns
recorded so far, oldest first, evicted states included.
-/

import HomeCortex.Mutation.NamedWrites
import HomeCortex.Semantic.Ir
import Mathlib

namespace HomeCortex

/-- What the fact service answers to a turn: an executed request, a write intent,
or nothing. -/
inductive TurnAnswer where
  | fact (answer : FactAnswer)
  | mutation (intent : NamedWriteRequest)
  | none

namespace SemanticConversation

/-- `MAX_DISCOURSE_TURNS`. -/
def maxDiscourseTurns : Nat := 8

/-- `xs[-MAX_DISCOURSE_TURNS:]`. -/
def lastTurns {α : Type} (xs : List α) : List α := xs.drop (xs.length - maxDiscourseTurns)

/-- `_focus`. -/
def focus : TurnAnswer → List String
  | .fact answer => if answer.result.status = .found then answer.result.focus_entity_ids else []
  | _ => []

/-- The key of a state. -/
structure Key where
  conversation_id : String
  caller_entity_id : String
  household_id : Option String
  assistant_id : String
deriving DecidableEq, Repr

/-- The key of a request, when it names a conversation and a caller. -/
def keyOf (context : AgentRequestContext) : Option Key :=
  match context.conversation_id, context.caller_entity_id with
  | some conversation, some caller =>
      if conversation.isEmpty || caller.isEmpty then none
      else some ⟨conversation, caller, context.household_id, context.assistant_id⟩
  | _, _ => none

/-- The `DiscourseContext` of `_context`, for a request with a key. -/
def Key.discourse (key : Key) (turns : List (List String)) : DiscourseContext :=
  ⟨key.conversation_id, some key.caller_entity_id, key.household_id, key.assistant_id, turns⟩

/-- `_Conversation`. -/
structure Conversation where
  locked : Bool
  users : Nat
  messages : List String
  turns : List (List String)

/-- `_Conversation()`. -/
def Conversation.new : Conversation := ⟨false, 0, [], []⟩

/-- Where a call is suspended. -/
inductive Phase where
  | waiting (state : Nat)
  | running (state : Nat) (history : List String) (trusted : DiscourseContext)
  | replaying (users : List String)

/-- A call in progress: its key and its last user message. -/
structure Call where
  key : Option Key
  text : String
  phase : Phase

namespace Call

/-- The state object the call holds. -/
def state? (call : Call) : Option Nat :=
  match call.phase with
  | .waiting state | .running state _ _ => some state
  | .replaying _ => none

/-- The call runs the planner and the executor. -/
def atPlanner (call : Call) : Bool :=
  match call.phase with
  | .waiting _ => false
  | .running _ _ _ | .replaying _ => true

/-- The call runs under the lock of `state`. -/
def runs (state : Nat) (call : Call) : Bool := call.state? == some state && call.atPlanner

/-- The call counts as a user of `state`. -/
def holds (state : Nat) (call : Call) : Bool := call.state? == some state

end Call

/-- A recorded turn: its answer, or nothing when it failed or was interrupted. -/
structure Turn where
  key : Key
  text : String
  outcome : Option TurnAnswer

/-- The focus a turn leaves behind. -/
def Turn.focus (turn : Turn) : List String :=
  match turn.outcome with
  | some answer => SemanticConversation.focus answer
  | none => []

/-- `SemanticConversationService`: its `OrderedDict`, the state objects, and the calls
in progress. -/
structure Service where
  maximum : Nat
  states : List (Key × Nat)
  objects : Nat → Conversation
  fresh : Nat
  calls : List Call
  recorded : List Turn

/-- `SemanticConversationService(facts, maximum)`. -/
def initial (maximum : Nat) : Service := ⟨maximum, [], fun _ => .new, 0, [], []⟩

namespace Service

variable (service : Service)

/-- One state object changed. -/
def setObject (state : Nat) (conversation : Conversation) : Service :=
  { service with objects := Function.update service.objects state conversation }

/-- `self._states.move_to_end(key)`. -/
def moveToEnd (key : Key) (state : Nat) : List (Key × Nat) :=
  (service.states.filter fun entry => entry.1 ≠ key) ++ [(key, state)]

/-- The least recently used state without users. -/
def idle : Option Key :=
  (service.states.find? fun entry => (service.objects entry.2).users == 0).map Prod.fst

/-- The states after making room for one more: all of them, or all but an idle one;
nothing when there is no room. -/
def room : Option (List (Key × Nat)) :=
  if service.maximum ≤ service.states.length then
    service.idle.map fun key => service.states.filter fun entry => entry.1 ≠ key
  else some service.states

/-- One more user of a state. -/
def enter (key : Key) (state : Nat) (states : List (Key × Nat)) (text : String) : Service :=
  { service with
    states := states
    objects := Function.update service.objects state
      { service.objects state with users := (service.objects state).users + 1 }
    calls := service.calls ++ [⟨some key, text, .waiting state⟩] }

/-- `try_answer` up to its first await: `users` are the user messages, `text` the last
of them. -/
def arrive (context : AgentRequestContext) (users : List String) (text : String) : Service :=
  match keyOf context with
  | none => { service with
      calls := service.calls ++ [⟨none, text, .replaying
        ((users ++ [text]).drop (users.length + 1 - (maxDiscourseTurns + 1)))⟩] }
  | some key =>
      match service.states.lookup key with
      | some state => service.enter key state (service.moveToEnd key state) text
      | none =>
          match service.room with
          | none => { service with calls := service.calls ++ [⟨some key, text, .replaying [text]⟩] }
          | some states =>
              { service with
                objects := Function.update service.objects service.fresh .new
                fresh := service.fresh + 1 }.enter key service.fresh
                  (states ++ [(key, service.fresh)]) text

/-- `state.users -= 1`, and the lock given back by a call that held it. -/
def release (state : Nat) (conversation : Conversation) (unlock : Bool) : Service :=
  service.setObject state
    { conversation with
      users := conversation.users - 1
      locked := conversation.locked && !unlock }

/-- The turn is recorded with its focus, and the call ends. -/
def record (turn : Turn) (state : Nat) (history : List String) : Service :=
  { service.release state
      { service.objects state with
        messages := lastTurns history
        turns := lastTurns ((service.objects state).turns ++ [turn.focus]) } true with
    recorded := service.recorded ++ [turn] }

end Service

/-- One atomic step of the service. -/
inductive Step : Service → Service → Prop
  /-- A call with at least one user message. -/
  | arrive (service : Service) (context : AgentRequestContext) (users : List String)
      (text : String) : Step service (service.arrive context users text)
  /-- `async with state.lock`, up to the await of the fact service. -/
  | acquire (service : Service) (before after : List Call) (key : Key) (text : String)
      (state : Nat) (calls : service.calls = before ++ ⟨some key, text, .waiting state⟩ :: after)
      (free : (service.objects state).locked = false) :
      Step service
        { service.setObject state { service.objects state with locked := true } with
          calls := before ++ ⟨some key, text, .running state
            ((service.objects state).messages ++ [text])
            (key.discourse (service.objects state).turns)⟩ :: after }
  /-- The fact service answers. -/
  | finish (service : Service) (before after : List Call) (key : Key) (text : String)
      (state : Nat) (history : List String) (trusted : DiscourseContext) (answer : TurnAnswer)
      (calls : service.calls = before ++ ⟨some key, text, .running state history trusted⟩ :: after) :
      Step service
        { service.record ⟨key, text, some answer⟩ state history with calls := before ++ after }
  /-- The fact service raises, or the call is cancelled while it waits for it. -/
  | fail (service : Service) (before after : List Call) (key : Key) (text : String)
      (state : Nat) (history : List String) (trusted : DiscourseContext)
      (calls : service.calls = before ++ ⟨some key, text, .running state history trusted⟩ :: after) :
      Step service { service.record ⟨key, text, none⟩ state history with calls := before ++ after }
  /-- The call is cancelled while it waits for the lock. -/
  | cancel (service : Service) (before after : List Call) (key : Key) (text : String)
      (state : Nat) (calls : service.calls = before ++ ⟨some key, text, .waiting state⟩ :: after) :
      Step service
        { service.release state (service.objects state) false with calls := before ++ after }
  /-- A stateless call returns, raises or is cancelled. -/
  | replayed (service : Service) (before after : List Call) (key : Option Key) (text : String)
      (users : List String) (calls : service.calls = before ++ ⟨key, text, .replaying users⟩ :: after) :
      Step service { service with calls := before ++ after }

/-- The states of the service that some interleaving of calls reaches. -/
def Reachable (maximum : Nat) (service : Service) : Prop :=
  Relation.ReflTransGen Step (initial maximum) service

end SemanticConversation
end HomeCortex
