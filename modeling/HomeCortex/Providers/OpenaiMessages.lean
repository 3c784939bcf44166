/-
# Conversations for a model server

`_openai_messages` of `providers/openai_compatible.py`.  A conversation record keeps no id of
the call that a tool message answers: the ids of the last message with calls wait in a queue,
and each tool message takes the first one.  A call without an id of the provider gets one from
its place.
-/

import HomeCortex.Library.Checked
import HomeCortex.Providers.Completions
import HomeCortex.Runtime.ToolResults

namespace HomeCortex
namespace Providers

open JsonText

section Text

variable (floats : FloatFormat)

mutual

/-- `json.dumps(value, ensure_ascii=False)`. -/
def dumpsText : Json → List Char
  | .null => ['n', 'u', 'l', 'l']
  | .bool true => ['t', 'r', 'u', 'e']
  | .bool false => ['f', 'a', 'l', 's', 'e']
  | .int n => integerText n
  | .float x => Runtime.floatText floats x
  | .str text => quote text
  | .arr [] => ['[', ']']
  | .arr (item :: items) => '[' :: (dumpsText item ++ dumpsItems items)
  | .obj [] => ['\x7b', '\x7d']
  | .obj ((key, item) :: fields) =>
      '\x7b' :: (quote key ++ (':' :: ' ' :: (dumpsText item ++ dumpsFields fields)))

def dumpsItems : List Json → List Char
  | [] => [']']
  | item :: items => ',' :: ' ' :: (dumpsText item ++ dumpsItems items)

def dumpsFields : List (String × Json) → List Char
  | [] => ['\x7d']
  | (key, item) :: fields =>
      ',' :: ' ' :: (quote key ++ (':' :: ' ' :: (dumpsText item ++ dumpsFields fields)))

end

end Text

theorem textOr_str (text : String) : textOr (.str text) = text := by
  unfold textOr
  by_cases hempty : text = ""
  · subst hempty
    rfl
  · have htruthy : (Json.str text).truthy = true := bne_iff_ne.2 hempty
    rw [if_pos htruthy]
    rfl

/-! ### Records of a conversation -/

/-- The items of a `Sequence`; those of a string are its characters. -/
def sequenceItems : Json → List Json
  | .arr items => items
  | .str text => text.toList.map fun c => .str (String.singleton c)
  | _ => []

/-- `str(message.get("role") or "user")`. -/
def messageRole (message : Fields) : String :=
  if (message.getD "role").truthy then (message.getD "role").pyStr else "user"

/-- `f"call_{index}"`. -/
def generatedId (index : Nat) : String := "call_" ++ toString index

/-- The id of the call at `call_index` of its message. -/
def callId (call : Fields) (call_index : Nat) : String :=
  if (call.getD "id").truthy then (call.getD "id").pyStr else generatedId call_index

section Messages

variable (floats : FloatFormat)

/-- The arguments of a function, as a text. -/
def argumentsText (arguments : Json) : String :=
  match arguments with
  | .obj fields => String.ofList (dumpsText floats (.obj fields))
  | value => if value.truthy then value.pyStr else "\x7b\x7d"

/-- One call of an assistant message with its id, unless it is no mapping with a function. -/
def openaiCall (call_index : Nat) (call : Json) : Option (String × Json) := do
  let call ← call.asObject?
  let function ← (call.getD "function").asObject?
  return (callId call call_index, .obj [
    ("id", .str (callId call call_index)),
    ("type", .str "function"),
    ("function", .obj [
      ("name", .str (textOr (function.getD "name"))),
      ("arguments", .str (argumentsText floats (function.getD "arguments")))])])

/-- The calls of an assistant message. -/
def openaiCalls (raw_calls : List Json) : List (String × Json) :=
  raw_calls.zipIdx.filterMap fun entry => openaiCall floats entry.2 entry.1

/-- A message that answers a call. -/
def toolItem (message : Fields) (tool_call_id : String) : Fields :=
  [("role", .str "tool"), ("tool_call_id", .str tool_call_id),
    ("content", .str (textOr (message.getD "content")))]

/-- A message without calls. -/
def plainItem (message : Fields) : Fields :=
  [("role", .str (messageRole message)),
    ("content", if (message.getD "content").truthy then message.getD "content" else .str "")]

/-- A message with calls; an empty content is null. -/
def callingItem (message : Fields) (calls : List (String × Json)) : Fields :=
  [("role", .str (messageRole message)),
    ("content", if (message.getD "content").truthy then message.getD "content" else .null),
    ("tool_calls", .arr (calls.map Prod.snd))]

/-- The raw calls of a message, of the assistant only. -/
def rawCalls (message : Fields) : List Json :=
  if messageRole message = "assistant" then sequenceItems (message.getD "tool_calls") else []

/-- The loop of `_openai_messages`; `pending` are the ids that are not answered yet. -/
def convertMessages : Nat → List String → List Fields → List Fields
  | _, _, [] => []
  | index, pending, message :: messages =>
      if messageRole message = "tool" then
        let given := textOr (message.getD "tool_call_id")
        let tool_call_id := if given = "" then pending.headD "" else given
        toolItem message (if tool_call_id = "" then generatedId index else tool_call_id) ::
          convertMessages (index + 1) (if given = "" then pending.tail else pending) messages
      else if (rawCalls message).isEmpty then
        plainItem message :: convertMessages (index + 1) pending messages
      else
        let calls := openaiCalls floats (rawCalls message)
        callingItem message calls :: convertMessages (index + 1) (calls.map Prod.fst) messages

/-- `_openai_messages`. -/
def openaiMessages (messages : List Fields) : List Fields := convertMessages floats 0 [] messages

/-! ### The queue -/

/-- The ids that are pending after messages. -/
def pendingAfter : List String → List Fields → List String
  | pending, [] => pending
  | pending, message :: messages =>
      if messageRole message = "tool" then
        pendingAfter (if textOr (message.getD "tool_call_id") = "" then pending.tail else pending)
          messages
      else if (rawCalls message).isEmpty then pendingAfter pending messages
      else pendingAfter ((openaiCalls floats (rawCalls message)).map Prod.fst) messages

theorem convertMessages_append (messages more : List Fields) :
    ∀ (index : Nat) (pending : List String),
      convertMessages floats index pending (messages ++ more) =
        convertMessages floats index pending messages ++
          convertMessages floats (index + messages.length) (pendingAfter floats pending messages)
            more := by
  induction messages with
  | nil => exact fun index pending => rfl
  | cons message messages ih =>
      intro index pending
      have hlength : index + (message :: messages).length = index + 1 + messages.length := by
        rw [List.length_cons]
        omega
      rw [List.cons_append, convertMessages, convertMessages, pendingAfter, hlength]
      dsimp only
      split
      case isTrue => rw [ih, List.cons_append]
      case isFalse =>
        split
        case isTrue => rw [ih, List.cons_append]
        case isFalse => rw [ih, List.cons_append]

/-- **Tool messages without an id take the pending ids in order.** -/
theorem convertMessages_tools {answers : List Fields}
    (hrole : ∀ answer ∈ answers, messageRole answer = "tool")
    (hid : ∀ answer ∈ answers, textOr (answer.getD "tool_call_id") = "") :
    ∀ {ids : List String}, ids.length = answers.length → (∀ id ∈ ids, id ≠ "") →
      ∀ (index : Nat) (messages : List Fields),
        convertMessages floats index ids (answers ++ messages) =
          List.zipWith toolItem answers ids ++
            convertMessages floats (index + answers.length) [] messages := by
  induction answers with
  | nil =>
      intro ids hlength _ index messages
      obtain rfl := List.length_eq_zero_iff.1 hlength
      rfl
  | cons answer answers ih =>
      intro ids hlength hne index messages
      cases ids with
      | nil => cases hlength
      | cons id ids =>
          have hindex : index + (answer :: answers).length = index + 1 + answers.length := by
            rw [List.length_cons]
            omega
          rw [List.cons_append, convertMessages, if_pos (hrole answer List.mem_cons_self)]
          dsimp only
          rw [hid answer List.mem_cons_self, if_pos rfl, if_pos rfl, List.headD_cons,
            if_neg (hne id List.mem_cons_self), List.tail_cons, List.zipWith_cons_cons,
            List.cons_append, hindex,
            ih (fun other hother => hrole other (List.mem_cons_of_mem _ hother))
              (fun other hother => hid other (List.mem_cons_of_mem _ hother))
              (Nat.succ.inj hlength) fun other hother => hne other (List.mem_cons_of_mem _ hother)]

end Messages

end Providers
end HomeCortex
