/-
# The durable conversation store

`SurrealConversationStore` of `conversation/store.py`, for one conversation.  The
database keeps the conversation record and its messages; every call is a sequence
of database calls, each atomic, and calls of any number of clients interleave at
them.  A `Task` is a call together with what it has read so far, suspended before
its next database call.
-/

import HomeCortex.Common.Json
import Mathlib

namespace HomeCortex
namespace SurrealConversationStore

/-- The record of a conversation, without its id. -/
structure Conversation where
  agent_id : Option String
  active_embodiment_id : Option String
  model : Option String
  person_id : Option String
  language : Option String
  greeting : Option String
  title : String
  created_at : Option String
  updated_at : String
deriving DecidableEq

/-- A stored message.  Ids are `uuid4` values, so every write adds a message. -/
structure Message where
  id : String
  role : String
  content : String
  created_at : String
deriving DecidableEq

/-- What the two tables hold of the conversation. -/
structure Db where
  conversation : Option Conversation
  messages : Finset Message
deriving DecidableEq

/-- `text.split()`. -/
def splitWords (cs : List Char) : List (List Char) :=
  (cs.splitOnP isSpace).filter (!·.isEmpty)

/-- `conversation_title`, with `TITLE_MAX = 80`. -/
def conversationTitle (text : String) : String :=
  let collapsed := [' '].intercalate (splitWords text.toList)
  if collapsed.length ≤ 80 then String.ofList collapsed
  else String.ofList ((collapsed.take 79).reverse.dropWhile isSpace).reverse ++ "…"

/-- The arguments of `append_message`, with the id and the time of its message. -/
structure Append where
  role : String
  content : String
  first_user : Option Bool
  id : String
  created_at : String
deriving DecidableEq

/-- `new_message(role, content)`. -/
def Append.message (call : Append) : Message :=
  ⟨call.id, call.role, call.content, call.created_at⟩

/-- The call asks the database whether there is a user message. -/
def Append.asks (call : Append) : Bool := call.role == "user" && call.first_user.isNone

/-- `first_user_message`, given the answer of `_has_user_message`. -/
def Append.firstUserMessage (call : Append) (has_user : Bool) : Bool :=
  call.role == "user" && call.first_user.getD (!has_user)

/-- The record the call writes. -/
def Append.upsert (call : Append) (loaded : Conversation) (first : Bool) : Conversation :=
  { loaded with
    title := if first then conversationTitle call.content else loaded.title
    updated_at := call.created_at }

/-- The arguments of `set_active_embodiment`, with the time of its update. -/
structure SetActive where
  embodiment_id : Option String
  updated_at : String
deriving DecidableEq

/-- The record the call writes. -/
def SetActive.upsert (call : SetActive) (loaded : Conversation) : Conversation :=
  { loaded with active_embodiment_id := call.embodiment_id, updated_at := call.updated_at }

/-- A call of the store. -/
inductive Call where
  | append (call : Append)
  | setActive (call : SetActive)
  | delete
deriving DecidableEq

/-- What a call returns; `missing` is `None`. -/
inductive Answer where
  | missing
  | message (message : Message)
  | transcript (conversation : Conversation) (messages : Finset Message)
  | deleted (existed : Bool)
deriving DecidableEq

/-- A call before its next database call. -/
inductive Task where
  | appendLoad (call : Append)
  | appendAsk (call : Append) (loaded : Conversation)
  | appendWrite (call : Append) (loaded : Conversation) (first : Bool)
  | appendUpsert (call : Append) (loaded : Conversation) (first : Bool)
  | setLoad (call : SetActive)
  | setUpsert (call : SetActive) (loaded : Conversation)
  | setReload (written : Conversation)
  | setMessages (loaded : Conversation)
  | deleteLoad
  | deleteMessages
  | deleteRecord
  | done (answer : Answer)

/-- The call has returned. -/
def Task.isDone : Task → Bool
  | .done _ => true
  | _ => false

/-- A call that has not begun. -/
def Call.task : Call → Task
  | .append call => .appendLoad call
  | .setActive call => .setLoad call
  | .delete => .deleteLoad

/-- `_has_user_message`. -/
def hasUserMessage (messages : Finset Message) : Bool :=
  decide (∃ message ∈ messages, message.role = "user")

/-- The next database call of a task, and what follows it. -/
def step : Task → Db → Task × Db
  | .appendLoad call, db =>
      match db.conversation with
      | none => (.done .missing, db)
      | some loaded =>
          if call.asks then (.appendAsk call loaded, db)
          else (.appendWrite call loaded (call.firstUserMessage false), db)
  | .appendAsk call loaded, db =>
      (.appendWrite call loaded (call.firstUserMessage (hasUserMessage db.messages)), db)
  | .appendWrite call loaded first, db =>
      (.appendUpsert call loaded first, { db with messages := insert call.message db.messages })
  | .appendUpsert call loaded first, db =>
      (.done (.message call.message), { db with conversation := some (call.upsert loaded first) })
  | .setLoad call, db =>
      match db.conversation with
      | none => (.done .missing, db)
      | some loaded => (.setUpsert call loaded, db)
  | .setUpsert call loaded, db =>
      (.setReload (call.upsert loaded), { db with conversation := some (call.upsert loaded) })
  | .setReload _, db =>
      match db.conversation with
      | none => (.done .missing, db)
      | some loaded => (.setMessages loaded, db)
  | .setMessages loaded, db => (.done (.transcript loaded db.messages), db)
  | .deleteLoad, db =>
      match db.conversation with
      | none => (.done (.deleted false), db)
      | some _ => (.deleteMessages, db)
  | .deleteMessages, db => (.deleteRecord, { db with messages := ∅ })
  | .deleteRecord, db => (.done (.deleted true), { db with conversation := none })
  | .done answer, db => (.done answer, db)

/-- A call run without interference: four database calls are enough for each. -/
def Alone (call : Call) (db : Db) (answer : Answer) (after : Db) : Prop :=
  (fun entry : Task × Db => step entry.1 entry.2)^[4] (call.task, db) = (.done answer, after)

/-- The database, the tasks of the calls in progress, and two ghosts: the messages of
the appends that have returned since the last deletion, and for each call these
messages when it wrote the record. -/
structure System where
  db : Db
  tasks : Nat → Task
  settled : Finset Message
  seen : Nat → Finset Message

/-- The settled messages after the next database call of a task. -/
def settle (settled : Finset Message) : Task → Finset Message
  | .appendUpsert call _ _ => insert call.message settled
  | .deleteRecord => ∅
  | _ => settled

/-- Call `index` makes its next database call. -/
def System.advance (system : System) (index : Nat) : System where
  db := (step (system.tasks index) system.db).2
  tasks := Function.update system.tasks index (step (system.tasks index) system.db).1
  settled := settle system.settled (system.tasks index)
  seen :=
    match system.tasks index with
    | .setUpsert _ _ => Function.update system.seen index system.settled
    | _ => system.seen

/-- The calls begin on a database. -/
def start (db : Db) (calls : List Call) : System where
  db := db
  tasks index := (calls[index]?.map Call.task).getD (.done .missing)
  settled := db.messages
  seen _ := ∅

/-- One of the calls that have not returned makes its next database call. -/
def Step (calls : List Call) (system system' : System) : Prop :=
  ∃ index < calls.length, (system.tasks index).isDone = false ∧ system' = system.advance index

/-- Every call has returned. -/
def Complete (calls : List Call) (system : System) : Prop :=
  ∀ index < calls.length, ∃ answer, system.tasks index = .done answer

end SurrealConversationStore
end HomeCortex
