/-
# A stream and a whole answer

`stream_chat_with_tools` against `_complete`.  What a stream gives on is a function of the
deltas it reads (`streamEvents_eq`): the pieces of content as they come, and the tool calls of
the whole message at the end.  The two agree unless an event with a delta is torn by a line
separator in one of its strings, or an error is sent, which `_choice_delta` passes over
(`stream_agrees_iff`).
-/

import HomeCortex.Common.FloatTexts
import HomeCortex.Providers.Frames

namespace HomeCortex
namespace Providers

/-- The delta of an event. -/
def Event.delta? : Event → Option Delta
  | .delta part => some part
  | _ => none

section Streams

variable {floats : FloatFormat}

/-- The deltas of some events. -/
def deltasOf (sent : List (SentEvent floats)) : List Delta :=
  sent.filterMap fun event => event.event.delta?

/-- The objects of the deltas that were sent. -/
def sentDeltas (sent : List (SentEvent floats)) : List Fields :=
  sent.filterMap fun event => choiceDelta event.payload

/-- The objects of the deltas that are read. -/
def readDeltas (floats : FloatFormat) (text : List Char) : List Fields :=
  (iterSseJson floats text).filterMap choiceDelta

/-- `_choice_delta` finds the delta of an event, where it has one. -/
theorem SentEvent.choiceDelta_rel (sent : SentEvent floats) :
    Option.Rel CarriesDelta (choiceDelta sent.payload) sent.event.delta? := by
  have hpayload := sent.isPayload
  cases hevent : sent.event with
  | delta part =>
      rw [hevent] at hpayload
      obtain ⟨first, others, fields, hchoices, hfields, hcarries⟩ := hpayload
      have hdelta : choiceDelta sent.payload = some fields := by
        rw [choiceDelta, hchoices]
        dsimp only
        rw [hfields]
        rfl
      rw [hdelta]
      exact .some hcarries
  | usage =>
      rw [hevent] at hpayload
      have hdelta : choiceDelta sent.payload = none := by
        rcases hpayload.2 with hchoices | hchoices <;> rw [choiceDelta, hchoices]
      rw [hdelta]
      exact .none
  | error =>
      rw [hevent] at hpayload
      have hdelta : choiceDelta sent.payload = none := by
        rw [choiceDelta, Fields.getD, hpayload.2]
        rfl
      rw [hdelta]
      exact .none

theorem sentDeltas_rel (sent : List (SentEvent floats)) :
    List.Forall₂ CarriesDelta (sentDeltas sent) (deltasOf sent) := by
  induction sent with
  | nil => exact .nil
  | cons event sent ih =>
      have hrel := event.choiceDelta_rel
      rw [sentDeltas, deltasOf, List.filterMap_cons, List.filterMap_cons]
      revert hrel
      cases choiceDelta event.payload <;> cases event.event.delta? <;> intro hrel
      · exact ih
      · cases hrel
      · cases hrel
      · cases hrel with
        | some hcarries => exact .cons hcarries ih

/-! ### What is given on -/

/-- The response for the content of a delta. -/
def given (model : String) (delta : Delta) : Option ChatResponse :=
  if delta.content = "" then none else some ⟨model, delta.content, none⟩

/-- The end of a stream after some responses. -/
def ending (responses : List ChatResponse) :
    Except PyError (Option ChatResponse) → List ChatResponse × Except PyError Unit
  | .ok response => (responses ++ response.toList, .ok ())
  | .error error => (responses, .error error)

theorem onDelta_eq (data : UnicodeData) (model : String) {fields : Fields} {delta : Delta}
    (h : CarriesDelta fields delta) (fragments : Fragments) :
    onDelta floats data model fragments fields =
      .ok (delta.tool_calls.foldl addTo fragments, given model delta) := by
  obtain ⟨hcontent, items, hitems, hpieces⟩ := h
  rw [onDelta, hitems.mappingsOr]
  show Except.bind (List.foldlM (addPiece data) fragments items) _ = _
  rw [addPieces_eq data hpieces, Except.bind, given]
  by_cases hempty : delta.content = ""
  · rw [if_neg fun htrue => hcontent.truthy.mp htrue hempty, if_pos hempty]
    rfl
  · rw [if_pos (hcontent.truthy.mpr hempty), if_neg hempty]
    rcases hcontent with hkey | ⟨hkey, -⟩
    · rw [hkey]
      rfl
    · exact absurd hkey hempty

/-- **A stream of deltas** gives on their contents and ends with the collected calls. -/
theorem streamEvents_eq (data : UnicodeData) (model : String) {events : List Fields}
    {deltas : List Delta}
    (h : List.Forall₂ CarriesDelta (events.filterMap choiceDelta) deltas)
    (fragments : Fragments) : streamEvents floats data model fragments events =
      ending (deltas.filterMap (given model))
        (finished floats model ((piecesOf deltas).foldl addTo fragments)) := by
  induction events generalizing deltas fragments with
  | nil =>
      cases h
      rw [streamEvents]
      show _ = ending [] (finished floats model fragments)
      cases finished floats model fragments <;> rfl
  | cons event events ih =>
      rw [streamEvents]
      rw [List.filterMap_cons] at h
      cases hdelta : choiceDelta event with
      | none =>
          rw [hdelta] at h
          exact ih h fragments
      | some fields =>
          rw [hdelta] at h
          obtain ⟨delta, rest, hcarries, hrest, rfl⟩ := List.forall₂_cons_left_iff.mp h
          dsimp only
          rw [onDelta_eq data model hcarries]
          dsimp only
          have hpieces : piecesOf (delta :: rest) = delta.tool_calls ++ piecesOf rest :=
            List.flatMap_cons
          rw [ih hrest, hpieces, List.foldl_append, List.filterMap_cons]
          cases finished floats model _ <;> cases given model delta <;> rfl

/-- The contents that are given on join to the whole content. -/
theorem given_contents (model : String) (deltas : List Delta) :
    ∃ contents : List String, deltas.filterMap (given model) =
        contents.map (fun content => ⟨model, content, none⟩) ∧
      String.join contents = String.join (deltas.map Delta.content) := by
  induction deltas with
  | nil => exact ⟨[], rfl, rfl⟩
  | cons delta deltas ih =>
      obtain ⟨contents, hcontents, hjoin⟩ := ih
      rw [List.filterMap_cons, List.map_cons, String.join_cons, ← hjoin, given]
      by_cases hempty : delta.content = ""
      · rw [if_pos hempty, hempty, String.empty_append]
        exact ⟨contents, hcontents, rfl⟩
      · rw [if_neg hempty, hcontents]
        exact ⟨delta.content :: contents, rfl, String.join_cons⟩

/-! ### What is read -/

/-- What is read of one frame. -/
theorem SentEvent.readDeltas_frame (hlexical : (PyNumber.format floats).Lexical)
    (sent : SentEvent floats) : (sent.Torn ∧ sent.eventsOf.filterMap choiceDelta = []) ∨
      (¬ sent.Torn ∧
        sent.eventsOf.filterMap choiceDelta = (choiceDelta sent.payload).toList) := by
  by_cases htorn : sent.Torn
  · exact .inl ⟨htorn, sent.eventsOf_torn hlexical htorn⟩
  · refine .inr ⟨htorn, ?_⟩
    rw [sent.eventsOf_line htorn, List.filterMap_cons]
    cases choiceDelta sent.payload <;> rfl

theorem sentDeltas_cons (event : SentEvent floats) (sent : List (SentEvent floats)) :
    sentDeltas (event :: sent) = (choiceDelta event.payload).toList ++ sentDeltas sent := by
  rw [sentDeltas, List.filterMap_cons]
  cases choiceDelta event.payload <;> rfl

theorem readDeltas_cons (event : SentEvent floats) (sent : List (SentEvent floats))
    (done : Bool) : readDeltas floats (wire (event :: sent) done) =
      event.eventsOf.filterMap choiceDelta ++ readDeltas floats (wire sent done) := by
  rw [readDeltas, readDeltas, iterSseJson_wire, iterSseJson_wire, List.flatMap_cons,
    List.filterMap_append]

/-- At most the deltas that were sent are read. -/
theorem readDeltas_length (hlexical : (PyNumber.format floats).Lexical)
    (sent : List (SentEvent floats)) (done : Bool) :
    (readDeltas floats (wire sent done)).length ≤ (sentDeltas sent).length := by
  induction sent with
  | nil => rw [readDeltas, iterSseJson_wire]; rfl
  | cons event sent ih =>
      rw [sentDeltas_cons, readDeltas_cons, List.length_append, List.length_append]
      rcases event.readDeltas_frame hlexical with ⟨-, h⟩ | ⟨-, h⟩
      · rw [h, List.length_nil]
        omega
      · rw [h]
        omega

/-- **No delta is lost** exactly when none is torn. -/
theorem readDeltas_eq_iff (hlexical : (PyNumber.format floats).Lexical)
    (sent : List (SentEvent floats)) (done : Bool) :
    readDeltas floats (wire sent done) = sentDeltas sent ↔
      ∀ event ∈ sent, event.event.delta?.isSome → ¬ event.Torn := by
  induction sent with
  | nil =>
      rw [readDeltas, iterSseJson_wire]
      exact iff_of_true rfl fun _ h => absurd h List.not_mem_nil
  | cons event sent ih =>
      have hrel := event.choiceDelta_rel
      rw [sentDeltas_cons, readDeltas_cons, List.forall_mem_cons, ← ih]
      rcases event.readDeltas_frame hlexical with ⟨htorn, h⟩ | ⟨htorn, h⟩
      · rw [h, List.nil_append]
        revert hrel
        cases choiceDelta event.payload with
        | none =>
            intro hrel
            cases hdelta : event.event.delta? with
            | none => exact ⟨fun h => ⟨fun hsome => (by cases hsome), h⟩, And.right⟩
            | some delta =>
                rw [hdelta] at hrel
                cases hrel
        | some fields =>
            intro hrel
            refine iff_of_false (fun heq => ?_) fun hboth => ?_
            · have hlength := readDeltas_length hlexical sent done
              rw [heq, Option.toList_some, List.length_append, List.length_singleton] at hlength
              omega
            · refine hboth.1 ?_ htorn
              cases hdelta : event.event.delta? with
              | none =>
                  rw [hdelta] at hrel
                  cases hrel
              | some delta => rfl
      · rw [h, List.append_cancel_left_eq]
        exact ⟨fun heq => ⟨fun _ => htorn, heq⟩, And.right⟩

/-! ### Errors -/

/-- What `_choice_message` raises without choices. -/
def noChoice : PyError := .value "Model response did not include a choice"

theorem complete_noChoice (model : String) {payload : Fields}
    (h : payload.get? "choices" = none) : complete floats model payload = .error noChoice := by
  rw [complete, choiceMessage, Fields.getD, h]
  rfl

theorem jsonArguments_ne_noChoice {value : Json} {e : PyError}
    (h : jsonArguments floats value = .error e) : e ≠ noChoice := by
  unfold jsonArguments at h
  split at h
  case h_1 => cases h
  case h_2 text =>
    split at h
    case isTrue => cases h
    case isFalse =>
      unfold loads at h
      split at h
      case h_1 => cases h
      case h_2 =>
        cases h
        decide
  case h_3 => cases h

theorem chatFunction_ne_noChoice {call : Fields} {e : PyError}
    (h : chatFunction floats call = .error e) : e ≠ noChoice := by
  rw [chatFunction] at h
  cases hcalled : calledFunction call with
  | error raised =>
      rw [hcalled] at h
      obtain rfl := Except.error.inj h
      unfold calledFunction at hcalled
      split at hcalled
      case h_1 => cases hcalled
      case h_2 =>
        split at hcalled
        case isTrue =>
          cases hcalled
          decide
        case isFalse => cases hcalled
  | ok function =>
      rw [hcalled] at h
      change (jsonArguments floats (Fields.getD function "arguments")).bind _ = .error e at h
      cases harguments : jsonArguments floats (Fields.getD function "arguments") with
      | ok _ =>
          rw [harguments] at h
          cases h
      | error raised =>
          rw [harguments] at h
          obtain rfl := Except.error.inj h
          exact jsonArguments_ne_noChoice harguments

/-- The end of a stream does not miss a choice. -/
theorem finished_ne_noChoice (floats : FloatFormat) (model : String) (fragments : Fragments) :
    finished floats model fragments ≠ .error noChoice := by
  intro h
  unfold finished at h
  dsimp only at h
  split at h
  case isTrue => cases h
  case isFalse hcalls =>
    cases hfunctions : chatFunctions floats (.arr _) with
    | ok functions =>
        rw [chatResponse, hfunctions] at h
        cases h
    | error raised =>
        rw [chatResponse, hfunctions] at h
        obtain rfl := Except.error.inj h
        rw [chatFunctions, if_pos (by simpa [Json.truthy] using hcalls)] at hfunctions
        change (List.mapM (chatFunction floats) _).bind _ = _ at hfunctions
        cases hmapM : List.mapM (chatFunction floats) _ with
        | ok functions =>
            rw [hmapM] at hfunctions
            cases hfunctions
        | error raised =>
            rw [hmapM] at hfunctions
            obtain rfl := Except.error.inj hfunctions
            obtain ⟨call, -, hcall⟩ := Except.mapM_eq_error hmapM
            exact chatFunction_ne_noChoice hcall rfl

/-! ### The agreement -/

/-- A stream against the whole answer: the deltas that are read are those that were sent;
without an error, what is given on are contents that join to the content of the message and
then the tool calls of `_complete`; and an error raises what it raises there. -/
structure Agrees (floats : FloatFormat) (data : UnicodeData) (model : String)
    (sent : List (SentEvent floats)) (message : AssistantMessage) (body : Fields)
    (text : List Char) : Prop where
  delivered : readDeltas floats text = sentDeltas sent
  completed : (∀ event ∈ sent, event.event ≠ .error) → ∃ contents functions,
    complete floats model body = .ok ⟨model, message.content, functions⟩ ∧
      String.join contents = message.content ∧
      streamChatWithTools floats data model text =
        (contents.map (fun content => ⟨model, content, none⟩) ++
          functions.toList.map (fun calls => ⟨model, "", some calls⟩), .ok ())
  raised : ∀ event ∈ sent, event.event = .error → ∃ error,
    complete floats model event.payload = .error error ∧
      (streamChatWithTools floats data model text).2 = .error error

/-- The arguments of every call are a JSON object. -/
def AssistantMessage.Callable (floats : FloatFormat) (message : AssistantMessage) : Prop :=
  ∀ call ∈ message.tool_calls, ∃ fields, loads floats call.arguments = .ok (.obj fields)

theorem AssistantMessage.Callable.functionsOf {message : AssistantMessage}
    (h : message.Callable floats) : ∃ functions,
      functionsOf floats message.tool_calls = .ok functions := by
  have hfunction : ∀ call ∈ message.tool_calls, ∃ function,
      ToolCall.function floats call = .ok function := by
    intro call hcall
    obtain ⟨fields, hfields⟩ := h call hcall
    have harguments : ∃ read, jsonArguments floats (.str call.arguments) = .ok read := by
      rw [jsonArguments, hfields]
      split
      case isTrue => exact ⟨_, rfl⟩
      case isFalse => exact ⟨_, rfl⟩
    obtain ⟨read, hread⟩ := harguments
    exact ⟨⟨call.name, read⟩, by rw [ToolCall.function, hread]; rfl⟩
  obtain ⟨functions, hfunctions⟩ := Except.mapM_isOk hfunction
  cases hcalls : message.tool_calls with
  | nil => exact ⟨none, rfl⟩
  | cons call calls =>
      rw [hcalls] at hfunctions
      refine ⟨some functions, ?_⟩
      rw [Providers.functionsOf, hfunctions]
      · rfl
      · exact fun hnil => absurd hnil (List.cons_ne_nil _ _)

/-- A stream of which every delta is read. -/
theorem streamChatWithTools_eq (data : UnicodeData) (model : String)
    {sent : List (SentEvent floats)} {text : List Char}
    (h : readDeltas floats text = sentDeltas sent) :
    streamChatWithTools floats data model text =
      ending ((deltasOf sent).filterMap (given model))
        (finished floats model ((piecesOf (deltasOf sent)).foldl addTo ∅)) :=
  streamEvents_eq data model (show List.Forall₂ CarriesDelta (readDeltas floats text) _ from
    h ▸ sentDeltas_rel sent) ∅

/-- An error is passed over, when every delta is read. -/
theorem error_passed_over (data : UnicodeData) (model : String) {sent : List (SentEvent floats)}
    {text : List Char} (hread : readDeltas floats text = sentDeltas sent)
    {event : SentEvent floats} (hevent : event.event = .error) :
    complete floats model event.payload = .error noChoice ∧
      (streamChatWithTools floats data model text).2 ≠ .error noChoice := by
  have hpayload := event.isPayload
  rw [hevent] at hpayload
  refine ⟨complete_noChoice model hpayload.2, ?_⟩
  rw [streamChatWithTools_eq data model hread]
  have hfinished := finished_ne_noChoice floats model
    ((piecesOf (deltasOf sent)).foldl addTo ∅)
  revert hfinished
  cases finished floats model _ with
  | ok response => exact fun _ h => (by cases h)
  | error raised => exact fun hne h => hne (congrArg Except.error (Except.error.inj h))

/-- Some events and a body answer with one message: it is cut into the deltas, where no error
is sent. -/
structure Answers (sent : List (SentEvent floats)) (message : AssistantMessage)
    (body : Fields) : Prop where
  isBody : IsBody body message
  callable : message.Callable floats
  cuts : (∀ event ∈ sent, event.event ≠ .error) → Cuts message (deltasOf sent)

/-- **When a stream agrees with the whole answer**: no delta is torn, and no error is sent. -/
theorem stream_agrees_iff (hfloats : floats.Lexical) (data : UnicodeData) (model : String)
    {sent : List (SentEvent floats)} {message : AssistantMessage} {body : Fields}
    (hanswers : Answers sent message body) (done : Bool) :
    Agrees floats data model sent message body (wire sent done) ↔
      ∀ event ∈ sent, event.event ≠ .error ∧ (event.event.delta?.isSome → ¬ event.Torn) := by
  have hlexical := format_lexical hfloats
  constructor
  · intro h event hmem
    refine ⟨fun hevent => ?_, (readDeltas_eq_iff hlexical sent done).mp h.delivered event hmem⟩
    obtain ⟨error, hcomplete, hstream⟩ := h.raised event hmem hevent
    obtain ⟨hchoice, hne⟩ := error_passed_over data model h.delivered hevent
    rw [hchoice] at hcomplete
    exact hne (Except.error.inj hcomplete ▸ hstream)
  · intro h
    have hread := (readDeltas_eq_iff hlexical sent done).mpr fun event hmem => (h event hmem).2
    refine ⟨hread, fun hclean => ?_, fun event hmem herror => absurd herror (h event hmem).1⟩
    obtain ⟨functions, hfunctions⟩ := hanswers.callable.functionsOf
    obtain ⟨contents, hcontents, hjoin⟩ := given_contents model (deltasOf sent)
    have hcut := hanswers.cuts hclean
    refine ⟨contents, functions, ?_, hjoin.trans hcut.content, ?_⟩
    · rw [complete_eq floats model hanswers.isBody, hfunctions]
      rfl
    · rw [streamChatWithTools_eq data model hread, finished_eq floats model hcut, hfunctions,
        hcontents]
      cases functions <;> rfl

end Streams

/-! ### A torn delta and an error -/

theorem plainFloats_lexical : plainFloats.Lexical := by
  intro cs x rest h
  refine ⟨cs.takeWhile JsonText.isNumberChar, ?_, fun c hc => ?_⟩
  · have hrest : rest = cs.dropWhile JsonText.isNumberChar := by
      dsimp only [plainFloats] at h
      split at h
      case h_1 => exact (Prod.mk.inj (Option.some.inj h)).2.symm
      case h_2 =>
        obtain ⟨_, -, heq⟩ := Option.map_eq_some_iff.mp h
        exact (Prod.mk.inj heq).2.symm
    rw [hrest, List.takeWhile_append_dropWhile]
  · simp [JsonText.isSyntax, List.mem_takeWhile_imp hc]

/-- No character outside ASCII is a space or a digit. -/
def asciiData : UnicodeData := ⟨fun _ => false, fun _ => none⟩

/-- An event of one delta with a content. -/
def contentEvent (content : String) : Fields :=
  [("choices", .arr [.obj [("delta", .obj [("content", .str content)])]])]

/-- The body of a message without tool calls. -/
def contentBody (content : String) : Fields :=
  [("choices", .arr [.obj [("message", .obj [("content", .str content)])]])]

/-- A delta with a content on one line. -/
def wholeEvent : SentEvent plainFloats where
  event := .delta ⟨"ab", []⟩
  payload := contentEvent "ab"
  text := "\x7b\"choices\":[\x7b\"delta\":\x7b\"content\":\"ab\"\x7d\x7d]\x7d"
  isPayload := ⟨_, _, _, rfl, rfl, .inl rfl, [], .inr ⟨rfl, rfl⟩, .nil⟩
  loads_text := by decide +kernel
  strip_text := by decide +kernel
  one_line := by simp

/-- A delta with a line separator in its content. -/
def tornEvent : SentEvent plainFloats where
  event := .delta ⟨"a\u2028b", []⟩
  payload := contentEvent "a\u2028b"
  text := "\x7b\"choices\":[\x7b\"delta\":\x7b\"content\":\"a\u2028b\"\x7d\x7d]\x7d"
  isPayload := ⟨_, _, _, rfl, rfl, .inl rfl, [], .inr ⟨rfl, rfl⟩, .nil⟩
  loads_text := by decide +kernel
  strip_text := by decide +kernel
  one_line := by simp

/-- An error instead of choices. -/
def errorEvent : SentEvent plainFloats where
  event := .error
  payload := [("error", .obj [("message", .str "overloaded")])]
  text := "\x7b\"error\":\x7b\"message\":\"overloaded\"\x7d\x7d"
  isPayload := ⟨⟨_, rfl⟩, rfl⟩
  loads_text := by decide +kernel
  strip_text := by decide +kernel
  one_line := by simp

/-- One delta carries a content. -/
theorem answers_content {event : SentEvent plainFloats} {content : String}
    (h : event.event = .delta ⟨content, []⟩) :
    Answers [event] ⟨content, []⟩ (contentBody content) where
  isBody := ⟨_, _, _, [], rfl, rfl, .inl rfl, .inr ⟨rfl, rfl⟩, .nil⟩
  callable call hcall := absurd hcall List.not_mem_nil
  cuts _ := by
    have hdeltas : deltasOf [event] = [⟨content, []⟩] := by
      rw [deltasOf, List.filterMap_cons, h]
      rfl
    rw [hdeltas]
    exact ⟨by simp, fun index call hcall => (by simp at hcall),
      fun piece hpiece => absurd hpiece List.not_mem_nil⟩

theorem stream_agrees_iff_whole :
    Agrees plainFloats asciiData "model" [wholeEvent] ⟨"ab", []⟩ (contentBody "ab")
      (wire [wholeEvent] true) :=
  (stream_agrees_iff plainFloats_lexical asciiData "model" (answers_content rfl) true).mpr
    (List.forall_mem_singleton.mpr ⟨fun h => (by cases h), fun _ => by
      simp [SentEvent.Torn, wholeEvent, isLineBreak]⟩)

theorem streams_disagree :
    (Answers [tornEvent] ⟨"a\u2028b", []⟩ (contentBody "a\u2028b") ∧
      ¬ Agrees plainFloats asciiData "model" [tornEvent] ⟨"a\u2028b", []⟩
        (contentBody "a\u2028b") (wire [tornEvent] true)) ∧
    (Answers [errorEvent] ⟨"", []⟩ (contentBody "") ∧
      ¬ Agrees plainFloats asciiData "model" [errorEvent] ⟨"", []⟩ (contentBody "")
        (wire [errorEvent] true)) := by
  have hlexical := format_lexical plainFloats_lexical
  refine ⟨⟨answers_content rfl, fun h => ?_⟩, ⟨?_, fun h => ?_⟩⟩
  · refine (readDeltas_eq_iff hlexical [tornEvent] true).mp h.delivered tornEvent
      List.mem_cons_self rfl ⟨'\u2028', ?_, by decide⟩
    simp [tornEvent]
  · refine ⟨⟨_, _, _, [], rfl, rfl, .inl rfl, .inr ⟨rfl, rfl⟩, .nil⟩,
      fun call hcall => absurd hcall List.not_mem_nil, fun hclean => ?_⟩
    exact absurd rfl (hclean errorEvent List.mem_cons_self)
  · obtain ⟨error, hcomplete, hstream⟩ := h.raised errorEvent List.mem_cons_self rfl
    obtain ⟨hchoice, hne⟩ := error_passed_over asciiData "model" h.delivered
      (show errorEvent.event = .error from rfl)
    rw [hchoice] at hcomplete
    exact hne (Except.error.inj hcomplete ▸ hstream)

end Providers
end HomeCortex
