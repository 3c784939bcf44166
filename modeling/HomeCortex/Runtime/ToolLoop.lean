/-
# The conversation of the model loop

`ModelLoop.run` and `ModelLoop.stream` of `runtime/model_loop.py`, as far as they build the
conversation that is sent to the provider.  A step appends the reply of the model and, for each
call in it, one tool message that does not say which call it answers.  What the provider and
the tools answer is given, at every step; where one of them raises, the run ends.  A
conversation that was sent is what the run began with and then whole rounds
(`mem_sent`).
-/

import HomeCortex.Runtime.ToolResults

namespace HomeCortex
namespace Runtime

open Display

/-- A call of a reply; a provider need not give it an id. -/
structure ToolCall where
  id : Option String
  name : String
  arguments : Fields

/-- `tool_call.model_dump(exclude_none=True)`. -/
def ToolCall.modelDump (call : ToolCall) : Fields :=
  (call.id.map fun id => ("id", Json.str id)).toList ++
    [("function", .obj [("name", .str call.name), ("arguments", .obj call.arguments)])]

/-- The reply of the model to one step, of the role `assistant`. -/
structure Reply where
  content : Option String
  tool_calls : List ToolCall

/-- The reply as a message. -/
def Reply.message (reply : Reply) : ChatMessage :=
  { role := "assistant"
    content := reply.content
    tool_calls := reply.tool_calls.map fun call => .obj call.modelDump }

/-- What the provider answers: one response, or the chunks of a stream. -/
inductive Answer where
  | response (reply : Reply)
  | chunks (replies : List Reply)

/-- The reply that is appended; that of a stream joins the contents and the calls. -/
def Answer.reply : Answer → Reply
  | .response reply => reply
  | .chunks replies => {
      content := some (String.join (replies.map fun reply => reply.content.getD ""))
      tool_calls := replies.flatMap Reply.tool_calls }

/-- What a run meets: the provider's answer at a step, and what a tool answers there to the
call at a place.  There is none where it raises. -/
structure Surroundings where
  answer : Nat → List Fields → Option Answer
  dispatch : Nat → Nat → ToolCall → Option Fields

/-- The limits that `ModelLoop.__init__` admits; nothing here rests on the bound of steps. -/
structure LoopLimits extends ToolLimits where
  max_steps : Nat
  max_tool_calls_per_step : Nat
  calls_bounded : max_tool_calls_per_step ≤ 4

section Loop

variable (folding : CaseFolding) (floats : FloatFormat) (limits : LoopLimits) (language : String)
  (surroundings : Surroundings)

/-- The message that answers a call. -/
def toolMessage (call : ToolCall) (tool_result : Fields) : Fields :=
  [("role", .str "tool"), ("tool_name", .str call.name),
    ("content", .str (serializeToolResult folding floats limits.toToolLimits call.name tool_result
      language))]

/-- `_append_tool_results`: the messages that are appended. -/
def toolMessages (step : Nat) (calls : List ToolCall) : Option (List Fields) :=
  calls.zipIdx.mapM fun entry =>
    (surroundings.dispatch step entry.2 entry.1).map (toolMessage folding floats limits language
      entry.1)

/-- The conversations that are sent from `step` on, with so many steps left. -/
def sentFrom : Nat → Nat → List Fields → List (List Fields)
  | 0, _, _ => []
  | left + 1, step, conversation =>
      conversation :: match surroundings.answer step conversation with
        | none => []
        | some answer =>
            let reply := answer.reply
            if reply.tool_calls.isEmpty ||
                decide (limits.max_tool_calls_per_step < reply.tool_calls.length) then []
            else match toolMessages folding floats limits language surroundings step
                reply.tool_calls with
              | none => []
              | some results =>
                  sentFrom left (step + 1) (conversation ++ reply.message.modelDump :: results)

/-- The conversations that a run sends to the provider. -/
def sent (messages : List Fields) : List (List Fields) :=
  sentFrom folding floats limits language surroundings limits.max_steps 1 messages

end Loop

/-! ### Rounds -/

/-- One step with calls: the reply and what the tools answered. -/
structure Round where
  reply : Reply
  results : List String
  answered : results.length = reply.tool_calls.length

/-- A tool message with its content. -/
def toolRecord (call : ToolCall) (content : String) : Fields :=
  [("role", .str "tool"), ("tool_name", .str call.name), ("content", .str content)]

/-- What a round appends to the conversation. -/
def Round.messages (round : Round) : List Fields :=
  round.reply.message.modelDump ::
    List.zipWith toolRecord round.reply.tool_calls round.results

/-- One to four calls. -/
def Round.Bounded (round : Round) : Prop :=
  1 ≤ round.reply.tool_calls.length ∧ round.reply.tool_calls.length ≤ 4

section Rounds

variable {folding : CaseFolding} {floats : FloatFormat} {limits : LoopLimits} {language : String}
  {surroundings : Surroundings}

/-- Every call is answered by one tool message, in order. -/
theorem toolMessages_eq_some {step : Nat} {calls : List ToolCall} {messages : List Fields}
    (h : toolMessages folding floats limits language surroundings step calls = some messages) :
    ∃ results : List String, results.length = calls.length ∧
      messages = List.zipWith toolRecord calls results := by
  unfold toolMessages at h
  revert h
  generalize 0 = place
  intro h
  induction calls generalizing place messages with
  | nil =>
      obtain rfl := Option.some.inj h
      exact ⟨[], rfl, rfl⟩
  | cons call calls ih =>
      rw [List.zipIdx_cons, List.mapM_cons] at h
      simp only [Option.bind_eq_bind, Option.bind_eq_some_iff, Option.pure_def,
        Option.map_eq_some_iff] at h
      obtain ⟨message, ⟨result, -, rfl⟩, rest, hrest, h⟩ := h
      obtain rfl := Option.some.inj h
      obtain ⟨results, hlength, rfl⟩ := ih (place + 1) hrest
      exact ⟨_ :: results, congrArg Nat.succ hlength, rfl⟩

theorem mem_sentFrom {conversation : List Fields} : ∀ {left step : Nat} {start : List Fields},
    conversation ∈ sentFrom folding floats limits language surroundings left step start →
    ∃ rounds : List Round, conversation = start ++ rounds.flatMap Round.messages ∧
      ∀ round ∈ rounds, round.Bounded := by
  intro left
  induction left with
  | zero => exact fun h => by cases h
  | succ left ih =>
      intro step start h
      rw [sentFrom] at h
      rcases List.mem_cons.1 h with rfl | h
      · exact ⟨[], by simp, fun round hround => by cases hround⟩
      split at h
      case h_1 => cases h
      case h_2 answer _ =>
        dsimp only at h
        split at h
        case isTrue => cases h
        case isFalse hcalls =>
          rw [Bool.or_eq_true, not_or, decide_eq_true_eq, List.isEmpty_iff] at hcalls
          split at h
          case h_1 => cases h
          case h_2 messages hmessages =>
            obtain ⟨results, hlength, rfl⟩ := toolMessages_eq_some hmessages
            obtain ⟨rounds, rfl, hbounded⟩ := ih h
            refine ⟨⟨answer.reply, results, hlength⟩ :: rounds, ?_, ?_⟩
            · rw [List.flatMap_cons, List.append_assoc]
              rfl
            · intro round hround
              rcases List.mem_cons.1 hround with rfl | hround
              · have hpos := List.length_pos_iff.2 hcalls.1
                exact ⟨hpos, (Nat.not_lt.1 hcalls.2).trans limits.calls_bounded⟩
              · exact hbounded round hround

/-- **A conversation that is sent**: the messages the run began with, and whole rounds. -/
theorem mem_sent {messages conversation : List Fields}
    (h : conversation ∈ sent folding floats limits language surroundings messages) :
    ∃ rounds : List Round, conversation = messages ++ rounds.flatMap Round.messages ∧
      ∀ round ∈ rounds, round.Bounded :=
  mem_sentFrom h

end Rounds

end Runtime
end HomeCortex
