/-
# One step of the model loop

`runtime/model_loop.py`.  A step asks the model once.  `stream` renders the answer while
it arrives, `run` when it is complete; both replace record ids by names and repair an
agent's name that was emitted as the user's salutation (`_SelfVocativeStream`).  A step
whose message calls tools is followed by another one; here a step says only that it
calls tools, and what the tools answer is in the conversation of the next step.
-/

import HomeCortex.Common.Display

namespace HomeCortex
namespace Runtime

open Display

/-- `ChatMessage`. -/
structure ChatMessage where
  role : String
  content : Option String
  tool_calls : List Json

/-- `model_dump(exclude_none=True)`. -/
def ChatMessage.modelDump (message : ChatMessage) : Fields :=
  [("role", .str message.role)] ++
    (message.content.map fun content => ("content", Json.str content)).toList ++
      if message.tool_calls.isEmpty then [] else [("tool_calls", .arr message.tool_calls)]

/-! ### The salutation -/

/-- `_self_vocative_prefixes`. -/
def selfVocativePrefixes : Option String → List (List Char)
  | none => []
  | some agent_name =>
      if agent_name = "" then []
      else ['，', ',', '：', ':'].map fun punctuation => agent_name.toList ++ [punctuation]

/-- `_address_prefix`. -/
def addressPrefix (speaker_address : Option String) (language : String) : List Char :=
  match speaker_address with
  | none => []
  | some address =>
      if address = "" then []
      else address.toList ++ if language = "zh" then ['，'] else [',', ' ']

/-- `_SelfVocativeStream`. -/
structure SelfVocativeStream where
  agent_name : Option String
  speaker_address : Option String
  language : String
  pending : List Char
  resolved : Bool

namespace SelfVocativeStream

/-- `__init__`. -/
def start (agent_name speaker_address : Option String) (language : String) : SelfVocativeStream :=
  { agent_name, speaker_address, language, pending := [], resolved := agent_name.isNone }

variable (folding : CaseFolding)

/-- `feed`. -/
def feed (stream : SelfVocativeStream) (text : List Char) : List Char × SelfVocativeStream :=
  if stream.resolved then (text, stream)
  else
    let pending := stream.pending ++ text
    let folded := folding.casefold pending
    let salutations := selfVocativePrefixes stream.agent_name
    match salutations.find? fun salutation => (folding.casefold salutation).isPrefixOf folded with
    | some salutation =>
        (addressPrefix stream.speaker_address stream.language ++
            (pending.drop salutation.length).dropWhile isSpace,
          { stream with pending := [], resolved := true })
    | none =>
        if salutations.any fun salutation => folded.isPrefixOf (folding.casefold salutation) then
          ([], { stream with pending })
        else (pending, { stream with pending := [], resolved := true })

/-- `finish`. -/
def finish (stream : SelfVocativeStream) : List Char × SelfVocativeStream :=
  (stream.pending, { stream with pending := [], resolved := true })

end SelfVocativeStream

/-- `_repair_self_vocative`. -/
def repairSelfVocative (folding : CaseFolding) (text : List Char)
    (agent_name speaker_address : Option String) (language : String) : List Char :=
  let fed := (SelfVocativeStream.start agent_name speaker_address language).feed folding text
  fed.1 ++ fed.2.finish.1

/-- `_speaker_address`: how the first person of the presentation values is addressed. -/
def speakerAddress (folding : CaseFolding) (presentation_values : List Json) (language : String) :
    Option String :=
  presentation_values.findSome? (fun
    | .obj value =>
        match Fields.get? value "id" with
        | some (.str record_id) =>
            if record_id.startsWith "person:" then
              some (Resolver.resolveEntity folding (some value) record_id language .address)
            else none
        | _ => none
    | _ => none) |>.filter (· ≠ "")

/-! ### Steps -/

/-- `_LoopState`, as far as a step reads it. -/
structure LoopState where
  conversation : List Fields
  presentation_language : String
  expose_internal_ids : Bool
  presentation_values : List Json

/-- `AgentStreamingError`. -/
structure AgentStreamingError where
  message : String
deriving DecidableEq

section Steps

variable (folding : CaseFolding) (loads : String → Option Json)
  (localized_identity : List (String × String)) (state : LoopState)

/-- `stream` within one step: its two streams, and what it has collected. -/
structure Streaming where
  display : TextStream
  vocative : SelfVocativeStream
  content_parts : List String
  tool_calls : List Json
  emitted_content : Bool

/-- The start of a step of `stream`. -/
def Streaming.start : Streaming where
  display := {
    resolver := .fromMessages loads state.conversation state.presentation_values
    language := state.presentation_language
    expose_internal_ids := state.expose_internal_ids
    person_mode := .address
    pending := [] }
  vocative := .start (localized_identity.lookup state.presentation_language)
    (speakerAddress folding state.presentation_values state.presentation_language)
    state.presentation_language
  content_parts := []
  tool_calls := []
  emitted_content := false

/-- What the display stream gave goes through the salutation, unless it is empty. -/
def Streaming.address (streaming : Streaming) (rendered : List Char) :
    List (List Char) × Streaming :=
  if rendered = [] then ([], streaming)
  else
    let (addressed, vocative) := streaming.vocative.feed folding rendered
    if addressed = [] then ([], { streaming with vocative })
    else ([addressed], { streaming with vocative, emitted_content := true })

/-- The body of `async for response`: what is yielded, and the streams after it. -/
def Streaming.onResponse (streaming : Streaming) (message : ChatMessage) :
    Except AgentStreamingError (List (List Char) × Streaming) :=
  if !message.tool_calls.isEmpty && streaming.emitted_content then
    .error ⟨"Ollama emitted tool calls after final-answer content"⟩
  else
    let streaming := { streaming with tool_calls := streaming.tool_calls ++ message.tool_calls }
    let content := message.content.getD ""
    if content = "" then .ok ([], streaming)
    else
      let streaming := { streaming with content_parts := streaming.content_parts ++ [content] }
      if !streaming.tool_calls.isEmpty then .ok ([], streaming)
      else
        let (rendered, display) := streaming.display.feed folding content.toList
        .ok (Streaming.address folding { streaming with display } rendered)

/-- The responses of one step, up to one that raises. -/
def Streaming.onResponses : Streaming → List ChatMessage →
    List (List Char) × Except AgentStreamingError Streaming
  | streaming, [] => ([], .ok streaming)
  | streaming, message :: messages =>
      match streaming.onResponse folding message with
      | .error error => ([], .error error)
      | .ok (yielded, streaming) =>
          let rest := onResponses streaming messages
          (yielded ++ rest.1, rest.2)

/-- How a step ends. -/
inductive StepEnd where
  | answered
  | tools (calls : List Json)
  | raised (error : AgentStreamingError)

/-- What `stream` yields after the last response of a step without tool calls. -/
def Streaming.finish (streaming : Streaming) : List (List Char) :=
  let (rendered, display) := streaming.display.finish folding
  let (yielded, streaming) := Streaming.address folding { streaming with display } rendered
  let trailing := streaming.vocative.finish.1
  yielded ++ if trailing = [] then [] else [trailing]

/-- One step of `ModelLoop.stream`: what it yields, and how it ends. -/
def streamStep (responses : List ChatMessage) : List (List Char) × StepEnd :=
  match (Streaming.start folding loads localized_identity state).onResponses folding responses with
  | (yielded, .error error) => (yielded, .raised error)
  | (yielded, .ok streaming) =>
      if streaming.tool_calls.isEmpty then (yielded ++ streaming.finish folding, .answered)
      else (yielded, .tools streaming.tool_calls)

/-- One step of `ModelLoop.run`: its answer, unless it calls tools. -/
def runStep (message : ChatMessage) : Option (List Char) :=
  if message.tool_calls.isEmpty then
    let resolver := Resolver.fromMessages loads (state.conversation ++ [message.modelDump])
      state.presentation_values
    let answer := resolver.render folding (message.content.getD "").toList
      state.presentation_language state.expose_internal_ids .address
    some (repairSelfVocative folding answer
      (localized_identity.lookup state.presentation_language)
      (speakerAddress folding state.presentation_values state.presentation_language)
      state.presentation_language)
  else none

end Steps

end Runtime
end HomeCortex
