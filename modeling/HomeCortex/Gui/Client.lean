/-
# The browser's conversations

`home_gui/src/App.svelte`: the conversation that is shown, and the functions that change it.  An
asynchronous function runs without interruption from one `await` to the next; what it waits for
is one of the `tasks`, or the `phase` of the one message that is being sent, and the answers come
in any order.  `creating` is the promise of a conversation that is being made: its `then` and its
`finally` run apart, and so does whoever awaits it.

`heard`, `posts` and the `origin` of an entry are not in the source: they keep what the server
has said, where each text was posted, and where what is shown has come from.  The list of bodies,
the pages besides the chat and the timing of the first answer are left out.
-/

import Mathlib

namespace HomeCortex
namespace Gui

inductive Role where
  | user
  | assistant
deriving DecidableEq

structure ChatMessage where
  id : String
  role : Role
  content : String
deriving DecidableEq

structure ConversationSummary where
  id : String
  model : String
  agent_id : Option String
  agent_entity_id : Option String
  active_embodiment_id : Option String
  language : String
  greeting : Option String
  title : String
  updated_at : String

structure Conversation extends ConversationSummary where
  messages : Option (List ChatMessage)

/-- A model of the list; `bare` when its kind is `model`. -/
structure Model where
  id : String
  bare : Bool

/-- Where an entry has come from: a conversation that was loaded, or a message that was sent. -/
inductive Origin where
  | loaded (conversationId : String)
  | sent (send : Nat)
deriving DecidableEq

structure Entry where
  message : ChatMessage
  origin : Origin
deriving DecidableEq

/-- A text that was posted to a conversation. -/
structure Post where
  send : Nat
  conversationId : String
  text : String

/-- What a text was meant for when it was submitted: the conversation that was shown, or the one
that was being made. -/
inductive Meant where
  | active (conversationId : String)
  | promised (promise : Nat)

structure Submission where
  send : Nat
  text : String
  meant : Meant

/-- How a promise of a conversation ended. -/
inductive Creation where
  | resolved (conversationId : String)
  | rejected (message : String)
deriving DecidableEq

/-- What follows a load of the workspace: `openWorkspace` or `newChatFromAnywhere`. -/
inductive AfterLoad where
  | openFirst
  | newChat
deriving DecidableEq

/-- A request under way, or a `finally` that is still to run. -/
inductive Task where
  | creating (promise : Nat) (startedFor : String)
  | settling (promise : Nat) (outcome : Creation)
  | selecting (id : String)
  | removing (id : String)
  | choosing (conversationId : String)
  | loading (next : AfterLoad)
  | signingOut
deriving DecidableEq

/-- Where `send` waits: for a conversation, for the reply, or for the conversation after it. -/
inductive Phase where
  | awaiting (promise : Nat)
  | streaming (conversationId reply : String)
  | latest (conversationId reply : String)

structure Sending where
  send : Nat
  text : String
  phase : Phase

/-- A requested animation frame that will paint the reply. -/
structure Frame where
  send : Nat
  conversationId : String
  reply : String

structure Client where
  models : List Model
  model : String
  conversations : List ConversationSummary
  activeId : Option String
  messages : List Entry
  sendError : String
  embodimentError : String
  activeEmbodimentId : Option String
  activeAgentId : Option String
  activeAgentEntityId : Option String
  creating : Option Nat
  needsLogin : Bool
  tasks : List Task
  settled : List (Nat × Creation)
  sending : Option Sending
  frames : List Frame
  promises : Nat
  sends : Nat
  heard : List Conversation
  submitted : List Submission
  posts : List Post

/-- What the entries of a conversation are when it is loaded. -/
def Conversation.entries (conversation : Conversation) : List Entry :=
  (conversation.messages.getD []).map fun message => ⟨message, .loaded conversation.id⟩

namespace Client

/-- The page as it is opened. -/
def start : Client where
  models := []
  model := ""
  conversations := []
  activeId := none
  messages := []
  sendError := ""
  embodimentError := ""
  activeEmbodimentId := none
  activeAgentId := none
  activeAgentEntityId := none
  creating := none
  needsLogin := false
  tasks := []
  settled := []
  sending := none
  frames := []
  promises := 0
  sends := 0
  heard := []
  submitted := []
  posts := []

/-- `pending`. -/
def pending (c : Client) : Bool := c.sending.isSome

def begin (c : Client) (task : Task) : Client := { c with tasks := task :: c.tasks }

def done (c : Client) (task : Task) : Client := { c with tasks := c.tasks.erase task }

def hear (c : Client) (conversation : Conversation) : Client :=
  { c with heard := conversation :: c.heard }

/-- `promoteConversation`. -/
def promoteConversation (c : Client) (conversation : Conversation) : Client :=
  { c with
    conversations := conversation.toConversationSummary ::
      c.conversations.filter (·.id != conversation.id) }

/-- The conversation becomes the one that is shown. -/
def adopt (c : Client) (conversation : Conversation) : Client :=
  { c with
    activeId := some conversation.id
    messages := conversation.entries
    activeEmbodimentId := conversation.active_embodiment_id
    activeAgentId := conversation.agent_id
    activeAgentEntityId := conversation.agent_entity_id }

/-- No conversation is shown. -/
def clear (c : Client) : Client :=
  { c with
    activeId := none
    messages := []
    activeEmbodimentId := none
    activeAgentId := none
    activeAgentEntityId := none }

/-- The call of `createConversation` in `ensureConversation`. -/
def createConversation (c : Client) : Client :=
  { c with
    creating := some c.promises
    promises := c.promises + 1
    tasks := .creating c.promises c.model :: c.tasks }

/-- The promise that `ensureConversation` awaits when no conversation is shown. -/
def ensureCreating (c : Client) : Client × Nat :=
  match c.creating with
  | some promise => (c, promise)
  | none => (c.createConversation, c.promises)

/-- `ensureConversation`, up to what it awaits. -/
def ensureConversation (c : Client) : Client :=
  if c.activeId.isSome then c else c.ensureCreating.1

/-- The `then` of `ensureConversation`. -/
def created (c : Client) (startedFor : String) (conversation : Conversation) : Client :=
  let c := (c.hear conversation).promoteConversation conversation
  if c.activeId.isNone && c.model == startedFor then c.adopt conversation else c

/-- `startNewChat`. -/
def startNewChat (c : Client) : Client := { c.clear with creating := none }.ensureConversation

/-- `changeModel`. -/
def changeModel (c : Client) (next : String) : Client :=
  if next = c.model then c
  else { c.clear with model := next, creating := none }.ensureConversation

/-- `setLastAssistant`; `fresh` is the `newId()` of an entry that has to be added. -/
def setLastAssistant (c : Client) (send : Nat) (fresh content : String) : Client :=
  let added := c.messages ++ [⟨⟨fresh, .assistant, content⟩, .sent send⟩]
  match c.messages.getLast? with
  | none => { c with messages := added }
  | some last =>
      if last.message.role = .assistant then
        { c with
          messages := c.messages.dropLast ++ [⟨{ last.message with content := content }, .sent send⟩] }
      else { c with messages := added }

/-- The start of `streamMessage`. -/
def post (c : Client) (send : Nat) (text conversationId : String) : Client :=
  { c with
    posts := ⟨send, conversationId, text⟩ :: c.posts
    sending := some ⟨send, text, .streaming conversationId ""⟩ }

/-- The entries that `send` adds before it waits. -/
def typed (c : Client) (text userId assistantId : String) : Client :=
  { c with
    sends := c.sends + 1
    sendError := ""
    messages := c.messages ++ [⟨⟨userId, .user, text⟩, .sent c.sends⟩,
      ⟨⟨assistantId, .assistant, ""⟩, .sent c.sends⟩] }

/-- What `send` does with the text `k` before it waits. -/
def submit (c : Client) (k : Nat) (text : String) : Client :=
  match c.activeId with
  | some id => { c with submitted := ⟨k, text, .active id⟩ :: c.submitted }.post k text id
  | none =>
      { c.ensureCreating.1 with
        submitted := ⟨k, text, .promised c.ensureCreating.2⟩ :: c.submitted
        sending := some ⟨k, text, .awaiting c.ensureCreating.2⟩ }

/-- `send`, up to its first `await`. -/
def send (c : Client) (text userId assistantId : String) : Client :=
  (c.typed text userId assistantId).submit c.sends text

/-- The `catch` and the `finally` of `send`. -/
def fail (c : Client) (send : Nat) (fresh message : String) : Client :=
  { ({ c with sendError := message }.setLastAssistant send fresh message) with sending := none }

def dropFrame (c : Client) (send : Nat) : Client :=
  { c with frames := c.frames.filter (·.send != send) }

/-- One more piece of the reply. -/
def feed (c : Client) (s : Sending) (conversationId reply : String) : Client :=
  { c.dropFrame s.send with
    sending := some { s with phase := .streaming conversationId reply }
    frames := ⟨s.send, conversationId, reply⟩ :: (c.dropFrame s.send).frames }

/-- The end of the reply. -/
def streamed (c : Client) (s : Sending) (conversationId reply fresh : String) : Client :=
  { (c.dropFrame s.send).setLastAssistant s.send fresh reply with
    sending := some { s with phase := .latest conversationId reply } }

/-- The messages after `send` has read the conversation again. -/
def reload (c : Client) (s : Sending) (reply fresh : String) (conversation : Conversation) :
    Client :=
  if conversation.entries ≠ [] then { c with messages := conversation.entries }
  else if reply = "" then
    c.setLastAssistant s.send fresh (if c.sendError = "" then "No reply" else c.sendError)
  else c

/-- The rest of `send` after that. -/
def finish (c : Client) (s : Sending) (reply fresh : String) (conversation : Conversation) :
    Client :=
  { (((c.hear conversation).reload s reply fresh conversation).promoteConversation
      conversation) with
    activeEmbodimentId := conversation.active_embodiment_id
    sending := none }

/-- `loadWorkspace`, and what follows it. -/
def workspaceLoaded (c : Client) (models : List Model) (conversations : List ConversationSummary)
    (next : AfterLoad) : Client :=
  let preferred := ((models.find? (!·.bare)).map Model.id).getD ""
  let first := (models.head?.map Model.id).getD ""
  let c := { c with
    models := models
    model := if c.model ≠ "" then c.model else if preferred ≠ "" then preferred else first
    conversations := conversations }
  match next, conversations.head? with
  | .openFirst, some summary => c.begin (.selecting summary.id)
  | .openFirst, none => c.startNewChat
  | .newChat, _ => c.startNewChat

/-- The rest of `selectEmbodiment`. -/
def chosen (c : Client) (conversationId : String) (updated : Conversation) : Client :=
  let c := c.hear updated
  if c.activeId = some conversationId then
    { c with activeEmbodimentId := updated.active_embodiment_id }.promoteConversation updated
  else c

/-- The rest of `removeChat`. -/
def removed (c : Client) (id : String) : Client :=
  let c := { c with conversations := c.conversations.filter (·.id != id) }
  if c.activeId = some id then c.clear else c

/-- The rest of `signOut`. -/
def signedOut (c : Client) : Client := { c.clear with needsLogin := true, conversations := [] }

end Client

/-- What the user does, and what the page is answered. -/
inductive Event where
  | send (text userId assistantId : String)
  | startNewChat
  | selectChat (id : String)
  | removeChat (id : String)
  | changeModel (next : String)
  | selectEmbodiment (next : Option String)
  | loadWorkspace (next : AfterLoad)
  | signOut
  | created (promise : Nat) (startedFor : String) (reply : Except String Conversation)
  | settled (promise : Nat) (outcome : Creation)
  | selected (id : String) (reply : Except String Conversation)
  | removed (id : String) (reply : Except String Unit)
  | chosen (conversationId : String) (reply : Except String Conversation)
  | workspace (next : AfterLoad) (reply : Except String (List Model × List ConversationSummary))
  | signedOut (reply : Except String Unit)
  | resume (fresh : String)
  | delta (content : String)
  | streamed (fresh : String) (reply : Except String Unit)
  | latest (fresh : String) (reply : Except String Conversation)
  | paint (send : Nat) (fresh : String)

namespace Client

/-- An answer to a task that is under way; what it raises changes nothing else. -/
def answer {α : Type} (c : Client) (task : Task) (reply : Except String α)
    (f : Client → α → Client) : Option Client :=
  if task ∈ c.tasks then
    match reply with
    | .ok value => some (f (c.done task) value)
    | .error _ => some (c.done task)
  else none

/-- Run one function to its next `await`; `none` when nothing waits for this event. -/
def step (c : Client) : Event → Option Client
  | .send text userId assistantId =>
      if c.pending then none else some (c.send text userId assistantId)
  | .startNewChat => some c.startNewChat
  | .selectChat id => some (c.begin (.selecting id))
  | .removeChat id => some (c.begin (.removing id))
  | .changeModel next => some (c.changeModel next)
  | .selectEmbodiment _ =>
      match c.activeId with
      | none => some c
      | some id =>
          if c.pending then some c
          else some ({ c with embodimentError := "" }.begin (.choosing id))
  | .loadWorkspace next => some (c.begin (.loading next))
  | .signOut => some (c.begin .signingOut)
  | .created promise startedFor reply =>
      if .creating promise startedFor ∈ c.tasks then
        let c := c.done (.creating promise startedFor)
        match reply with
        | .ok conversation =>
            some ((c.created startedFor conversation).begin
              (.settling promise (.resolved conversation.id)))
        | .error message => some (c.begin (.settling promise (.rejected message)))
      else none
  | .settled promise outcome =>
      if .settling promise outcome ∈ c.tasks then
        some { c.done (.settling promise outcome) with
          creating := none
          settled := (promise, outcome) :: c.settled }
      else none
  | .selected id reply =>
      c.answer (.selecting id) reply fun c conversation =>
        { (c.hear conversation).adopt conversation with model := conversation.model }
  | .removed id reply => c.answer (.removing id) reply fun c _ => c.removed id
  | .chosen conversationId reply =>
      if .choosing conversationId ∈ c.tasks then
        let c := c.done (.choosing conversationId)
        match reply with
        | .ok updated => some (c.chosen conversationId updated)
        | .error message =>
            if c.activeId = some conversationId then some { c with embodimentError := message }
            else some c
      else none
  | .workspace next reply =>
      c.answer (.loading next) reply fun c loaded => c.workspaceLoaded loaded.1 loaded.2 next
  | .signedOut reply => c.answer .signingOut reply fun c _ => c.signedOut
  | .resume fresh =>
      match c.sending with
      | some ⟨k, text, .awaiting promise⟩ =>
          match c.settled.lookup promise with
          | some (.resolved id) =>
              some ({ c with activeId := c.activeId.or (some id) }.post k text id)
          | some (.rejected message) => some (c.fail k fresh message)
          | none => none
      | _ => none
  | .delta content =>
      match c.sending with
      | some ⟨k, text, .streaming id reply⟩ =>
          some (c.feed ⟨k, text, .streaming id reply⟩ id (reply ++ content))
      | _ => none
  | .streamed fresh outcome =>
      match c.sending with
      | some ⟨k, text, .streaming id reply⟩ =>
          match outcome with
          | .ok _ => some (c.streamed ⟨k, text, .streaming id reply⟩ id reply fresh)
          | .error message => some (c.fail k fresh message)
      | _ => none
  | .latest fresh answer =>
      match c.sending with
      | some ⟨k, text, .latest id reply⟩ =>
          match answer with
          | .ok conversation =>
              some (c.finish ⟨k, text, .latest id reply⟩ reply fresh conversation)
          | .error message => some (c.fail k fresh message)
      | _ => none
  | .paint k fresh =>
      match c.frames.find? (·.send == k) with
      | some frame => some ((c.dropFrame k).setLastAssistant k fresh frame.reply)
      | none => none

end Client

end Gui
end HomeCortex
