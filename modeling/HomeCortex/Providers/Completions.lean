/-
# Completions of a model server

`providers/openai_compatible.py`, as far as answers go.  `_complete` turns the body of one
response into a `ChatResponse`; `stream_chat_with_tools` reads server-sent events, gives each
piece of content on as it arrives, and collects the pieces of tool calls by their index.
`json.loads` reads with a given format of floats and `int` with a Unicode database; what the
calls record for tracing is left out.
-/

import HomeCortex.Common.CanonicalJson
import HomeCortex.Common.Display
import HomeCortex.Common.Lines
import HomeCortex.Common.Order
import HomeCortex.Conversation.Session

namespace HomeCortex
namespace Providers

/-- `ChatFunction`, of one tool call. -/
structure ChatFunction where
  name : String
  arguments : Fields
deriving DecidableEq

/-- `ChatResponse` with the content and the tool calls of its message. -/
structure ChatResponse where
  model : String
  content : String
  tool_calls : Option (List ChatFunction)
deriving DecidableEq

/-- `value or ""`, as a string. -/
def textOr (value : Json) : String := if value.truthy then value.pyStr else ""

section Responses

variable (floats : FloatFormat)

/-- `_json_arguments`. -/
def jsonArguments : Json → Except PyError Fields
  | .obj fields => .ok fields
  | .str text =>
      if isBlank text then .ok []
      else (loads floats text).map fun parsed => parsed.asObject?.getD []
  | _ => .ok []

/-- `call.get("function") or {}`. -/
def calledFunction (call : Fields) : Except PyError Fields :=
  match call.getD "function" with
  | .obj fields => .ok fields
  | value => if value.truthy then .error (.type "object has no attribute 'get'") else .ok []

/-- One tool call of `_chat_response`. -/
def chatFunction (call : Fields) : Except PyError ChatFunction := do
  let function ← calledFunction call
  return ⟨textOr (function.getD "name"), ← jsonArguments floats (function.getD "arguments")⟩

/-- The items of an iterable value that are mappings. -/
def mappings : Json → Except PyError (List Fields)
  | .arr items => .ok (items.filterMap Json.asObject?)
  | .obj _ | .str _ => .ok []
  | _ => .error (.type "object is not iterable")

/-- The mappings of `value or []`. -/
def mappingsOr (value : Json) : Except PyError (List Fields) :=
  if value.truthy then mappings value else .ok []

/-- The tool calls of a message, `None` where there are none. -/
def chatFunctions (tool_calls : Json) : Except PyError (Option (List ChatFunction)) :=
  if tool_calls.truthy then do
    return some (← (← mappings tool_calls).mapM (chatFunction floats))
  else .ok none

/-- `_chat_response` with `content or ""`; pydantic refuses a content that is no string. -/
def chatResponse (model : String) (content tool_calls : Json) : Except PyError ChatResponse := do
  let functions ← chatFunctions floats tool_calls
  match content with
  | .str text => return ⟨model, text, functions⟩
  | value =>
      raiseIf value.truthy (.value "Input should be a valid string")
      return ⟨model, "", functions⟩

/-- `_choice_message`. -/
def choiceMessage (payload : Fields) : Except PyError Fields :=
  match payload.getD "choices" with
  | .arr [] => .error (.value "Model response did not include a choice")
  | .arr (.obj first :: _) =>
      match Fields.getD first "message" with
      | .obj message => .ok message
      | _ => .error (.value "Model choice did not include a message")
  | .arr _ => .error (.value "Model choice was not an object")
  | _ => .error (.value "Model response did not include a choice")

/-- `_complete`, from the body of the response. -/
def complete (model : String) (body : Fields) : Except PyError ChatResponse := do
  let message ← choiceMessage body
  chatResponse floats model (message.getD "content") (message.getD "tool_calls")

end Responses

/-! ### Events -/

/-- `_choice_delta`. -/
def choiceDelta (payload : Fields) : Option Fields :=
  match payload.getD "choices" with
  | .arr (.obj first :: _) => (Fields.getD first "delta").asObject?
  | _ => none

/-- `data:`. -/
def dataPrefix : List Char := ['d', 'a', 't', 'a', ':']

/-- The event of one line, in `_iter_sse_json`. -/
def sseEvent (floats : FloatFormat) (line : List Char) : Option Fields :=
  if dataPrefix.isPrefixOf line then
    let data := Display.strip (String.ofList (line.drop 5))
    if data = "" ∨ data = "[DONE]" then none
    else match loads floats data with
      | .ok payload => payload.asObject?
      | .error _ => none
  else none

/-- `_iter_sse_json`, over the lines of `aiter_lines`. -/
def iterSseJson (floats : FloatFormat) (text : List Char) : List Fields :=
  (splitLines [] text).filterMap (sseEvent floats)

/-! ### Fragments -/

/-- A tool call while its pieces arrive. -/
structure Fragment where
  id : String
  name : String
  arguments : String
deriving DecidableEq

namespace Fragment

def empty : Fragment := ⟨"", "", ""⟩

/-- A fragment as a tool call. -/
def asCall (fragment : Fragment) : Json := .obj [("id", .str fragment.id),
  ("function", .obj [("name", .str fragment.name), ("arguments", .str fragment.arguments)])]

/-- What a piece of a tool call adds. -/
def extend (fragment : Fragment) (item : Fields) : Fragment :=
  let id := item.getD "id"
  let fragment := if id.truthy then { fragment with id := id.pyStr } else fragment
  match item.getD "function" with
  | .obj function =>
      let name := Fields.getD function "name"
      { fragment with
        name := if name.truthy then name.pyStr else fragment.name
        arguments := fragment.arguments ++ textOr (Fields.getD function "arguments") }
  | _ => fragment

end Fragment

/-- The fragments by their index. -/
abbrev Fragments := AList fun _ : Int => Fragment

/-- `int(x)` of a float: what stands before the point. -/
def intOfFloat (x : Float) : Except PyError Int :=
  match exactFloat x with
  | .finite mantissa exponent =>
      .ok (if 0 ≤ exponent then mantissa * 2 ^ exponent.toNat
        else mantissa.tdiv (2 ^ (-exponent).toNat))
  | .infinity _ => .error (.overflow "cannot convert float infinity to integer")
  | .nan => .error (.value "cannot convert float NaN to integer")

section Streaming

variable (floats : FloatFormat) (data : UnicodeData)

/-- `int(value or 0)`. -/
def indexOf (value : Json) : Except PyError Int :=
  if !value.truthy then .ok 0
  else match value with
    | .bool _ => .ok 1
    | .int n => .ok n
    | .float x => intOfFloat x
    | .str text =>
        match intOfText data text with
        | some n => .ok n
        | none => .error (.value "invalid literal for int() with base 10")
    | _ => .error (.type "int() argument must be a string or a real number")

/-- One piece of a tool call. -/
def addPiece (fragments : Fragments) (item : Fields) : Except PyError Fragments := do
  let index ← indexOf data (item.getD "index")
  let fragment := (fragments.lookup index).getD .empty
  return fragments.insert index (fragment.extend item)

/-- One delta: the fragments after it, and the response that is given on. -/
def onDelta (model : String) (fragments : Fragments) (delta : Fields) :
    Except PyError (Fragments × Option ChatResponse) := do
  let fragments ← (← mappingsOr (delta.getD "tool_calls")).foldlM (addPiece data) fragments
  let content := delta.getD "content"
  if content.truthy then return (fragments, some (← chatResponse floats model content .null))
  else return (fragments, none)

/-- The tool calls at the end of a stream, in the order of their indices. -/
def finished (model : String) (fragments : Fragments) : Except PyError (Option ChatResponse) :=
  let calls := (fragments.keys.insertionSort (· ≤ ·)).filterMap fun index =>
    (fragments.lookup index).map Fragment.asCall
  if calls.isEmpty then .ok none
  else (chatResponse floats model (.str "") (.arr calls)).map some

/-- What is given on of the events, and how they end. -/
def streamEvents (model : String) : Fragments → List Fields →
    List ChatResponse × Except PyError Unit
  | fragments, [] =>
      match finished floats model fragments with
      | .ok response => (response.toList, .ok ())
      | .error error => ([], .error error)
  | fragments, event :: events =>
      match choiceDelta event with
      | none => streamEvents model fragments events
      | some delta =>
          match onDelta floats data model fragments delta with
          | .error error => ([], .error error)
          | .ok (fragments, response) =>
              let (responses, outcome) := streamEvents model fragments events
              (response.toList ++ responses, outcome)

/-- `stream_chat_with_tools`, from the text of the response. -/
def streamChatWithTools (model : String) (text : List Char) :
    List ChatResponse × Except PyError Unit :=
  streamEvents floats data model ∅ (iterSseJson floats text)

end Streaming

end Providers
end HomeCortex
