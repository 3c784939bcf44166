/-
# Server-sent events of an answer

`api/sse.py`.  `stream_chat_completion` turns an answer stream into events: padding
and a chunk that names the role, one chunk for each non-empty content, and a chunk that
says why the answer stopped, then `[DONE]`; an exception of the answer becomes one error
event, then `[DONE]`.  Each event is one `data:` line of JSON and a blank line.
Tracing marks and log lines are left out.
-/

import HomeCortex.Api.Execution
import HomeCortex.Library.JsonText

namespace HomeCortex
namespace Api

/-- `json.dumps(value, ensure_ascii=False)` for documents whose numbers are integers. -/
def dumps (value : JsonDoc Int) : String :=
  String.ofList (JsonText.render ⟨1, 1⟩ JsonText.integers value)

/-- `chat_completion_chunk`. -/
def chatCompletionChunk (completion_id : String) (created : Int) (delta : List (String × String))
    (finish_reason : Option String) (model : String) : JsonDoc Int :=
  .obj [("id", .str completion_id), ("object", .str "chat.completion.chunk"),
    ("created", .num created), ("model", .str model),
    ("choices", .arr [.obj [("index", .num 0),
      ("delta", .obj (delta.map fun field => (field.1, .str field.2))),
      ("finish_reason", (finish_reason.map .str).getD .null)]])]

/-- `sse_data`. -/
def sseData (value : JsonDoc Int) : String := "data: " ++ dumps value ++ "\n\n"

/-- `sse_error`. -/
def sseError (code message request_id : String) : String :=
  sseData (.obj [("error", .obj [("code", .str code), ("message", .str message),
    ("request_id", .str request_id)])])

/-- The last event of every stream that is not stopped early. -/
def sseDone : String := "data: [DONE]\n\n"

/-- `error.stop_reason` of the agent's exceptions, else the code of the last handler. -/
def AnswerError.code : AnswerError → String
  | .agentLimit _ => "step_limit"
  | .agentStreaming _ => "tool_error"
  | .other _ => "internal_server_error"

/-- `str(error)` of the agent's exceptions, else the message of the last handler. -/
def AnswerError.message : AnswerError → String
  | .agentLimit message | .agentStreaming message => message
  | .other _ => "An unexpected server error occurred"

/-- What `stream_chat_completion` is called with beside the answer stream. -/
structure Completion where
  completion_id : String
  created : Int
  request_id : String
  model : String

namespace Completion

variable (completion : Completion)

/-- One chunk as an event. -/
def event (delta : List (String × String)) (finish_reason : Option String) : String :=
  sseData (chatCompletionChunk completion.completion_id completion.created delta finish_reason
    completion.model)

/-- The first event: a padding comment and the role. -/
def roleEvent : String :=
  ":" ++ String.ofList (List.replicate 2048 ' ') ++ "\n\n" ++
    completion.event [("role", "assistant")] none

/-- The event of one content. -/
def contentEvent (content : String) : String := completion.event [("content", content)] none

/-- The event that ends a complete answer. -/
def stopEvent : String := completion.event [] (some "stop")

/-- The event of an exception. -/
def errorEvent (error : AnswerError) : String :=
  sseError error.code error.message completion.request_id

/-- The body of the `async for`. -/
def sendContent (content : String) : Frame AnswerWait AnswerError String Unit Unit := do
  if content ≠ "" then Frame.emit (completion.contentEvent content)

/-- The `except` clauses. -/
def onError : Thrown AnswerError → Frame AnswerWait AnswerError String (AnswerStream × Unit) Unit
  | .exception error => do
      Frame.emit (completion.errorEvent error)
      Frame.emit sseDone
  | .ignoredExit => do
      Frame.emit (completion.errorEvent (.other "RuntimeError"))
      Frame.emit sseDone
  | error => throw error

/-- `stream_chat_completion`; its variable is the answer stream. -/
def streamChatCompletion : Frame AnswerWait AnswerError String (AnswerStream × Unit) Unit :=
  Frame.ensure
    (tryCatch
      (do
        Frame.emit completion.roleEvent
        Frame.forEach completion.sendContent
        Frame.emit completion.stopEvent
        Frame.emit sseDone)
      completion.onError)
    (Frame.suppress cancelledOrException Frame.aclose)

end Completion

/-- The event stream that `post_conversation_message` answers with: the execution of
the source, whose answer goes to `persist`, rendered as events. -/
def conversationStream (completion : Completion) (source : AnswerStream) : AnswerStream :=
  completion.streamChatCompletion.generator
    ((AnswerExecution.mk source (some .persist)).tokenStream true, ())

end Api
end HomeCortex
