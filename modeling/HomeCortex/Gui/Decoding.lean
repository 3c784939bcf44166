/-
# The browser decodes what the server encoded

The server's event stream (`HomeCortex.Api.Sse`) against the browser's reader
(`HomeCortex.Gui.Stream`).  `JSON.parse` is a parameter that undoes `json.dumps`, and a
`TextDecoder` one that decodes UTF-8 in pieces.  Every event is one line between blank
lines, because the JSON text of a value has no line break, so the parts that the reader
cuts out are the events that were sent; `streamMessage_decodes` follows them one by one.
-/

import HomeCortex.Api.Transcript
import HomeCortex.Gui.Stream

namespace HomeCortex
namespace Gui

open Api

/-- `JSON.parse`, as far as it undoes `json.dumps`. -/
structure JsonParser where
  parse : List Char → Option JsValue
  undoes_dumps : ∀ value, parse (JsonText.render ⟨1, 1⟩ JsonText.integers value) = some value

/-- The reader of JSON texts is such a parser. -/
def jsonText : JsonParser where
  parse := JsonText.parse JsonText.integers
  undoes_dumps _ := JsonText.parse_render _

/-- The text of an event stream. -/
def streamText (events : List String) : List Char := events.flatMap String.toList

theorem streamText_cons (event : String) (events : List String) :
    streamText (event :: events) = event.toList ++ streamText events := List.flatMap_cons

theorem streamText_append (events more : List String) :
    streamText (events ++ more) = streamText events ++ streamText more := List.flatMap_append

/-! ### Parts -/

/-- A line of JSON data, without the blank line after it. -/
def dataLine (value : JsValue) : List Char :=
  dataPrefix ++ JsonText.render ⟨1, 1⟩ JsonText.integers value

theorem sseData_toList (value : JsValue) :
    (sseData value).toList = dataLine value ++ ['\n', '\n'] := by
  simp only [sseData, Api.dumps, String.toList_append, String.toList_ofList]
  rfl

/-- A line before a blank line is a part. -/
theorem splitBlank_line {line : List Char} (h : '\n' ∉ line) (rest : List Char) :
    splitBlank (line ++ '\n' :: '\n' :: rest) = line :: splitBlank rest := by
  induction line with
  | nil => rfl
  | cons c line ih =>
      obtain ⟨hc, hline⟩ := not_or.mp (fun hmem => h (List.mem_cons.mpr hmem))
      obtain ⟨part, parts, hsplit, hcons⟩ := @splitBlank_cons c (line ++ '\n' :: '\n' :: rest)
        fun hblank => hc hblank.1.symm
      rw [List.cons_append, hcons]
      obtain ⟨rfl, rfl⟩ := List.cons.inj (hsplit.symm.trans (ih hline))
      rfl

theorem dataLine_no_break (value : JsValue) : '\n' ∉ dataLine value := by
  intro hmem
  rcases List.mem_append.mp hmem with hmem | hmem
  · exact absurd hmem (by decide)
  · exact absurd (JsonText.render_printable value _ hmem) (by decide)

/-- JSON text of an object is not touched by `trim`. -/
theorem trim_object (fields : List (String × JsValue)) :
    trim (JsonText.render ⟨1, 1⟩ JsonText.integers (.obj fields)) =
      JsonText.render ⟨1, 1⟩ JsonText.integers (.obj fields) := by
  obtain ⟨inner, h⟩ := @JsonText.render_obj _ ⟨1, 1⟩ JsonText.integers fields
  rw [h, trim, List.dropWhile_cons_of_neg (by decide), ← List.cons_append, List.reverse_append,
    List.reverse_singleton, List.singleton_append, List.dropWhile_cons_of_neg (by decide),
    List.reverse_cons, List.reverse_reverse]

variable (parser : JsonParser)

/-- **One event.**  The part of an event is handled as the value it was made of. -/
theorem handlePart_dataLine (fields : List (String × JsValue)) :
    handlePart parser.parse (dataLine (.obj fields)) = handleEvent (.obj fields) := by
  have hlines : (dataLine (.obj fields)).splitOn '\n' = [dataLine (.obj fields)] :=
    List.splitOn_eq_singleton (dataLine_no_break _)
  have hfind : [dataLine (.obj fields)].find? (fun item => dataPrefix.isPrefixOf item) =
      some (dataLine (.obj fields)) := by
    simp [dataLine]
  obtain ⟨inner, h⟩ := @JsonText.render_obj _ ⟨1, 1⟩ JsonText.integers fields
  have hdata : trim ((dataLine (.obj fields)).drop 6) =
      JsonText.render ⟨1, 1⟩ JsonText.integers (.obj fields) := by
    rw [dataLine, show (6 : Nat) = dataPrefix.length from rfl, List.drop_left, trim_object]
  rw [handlePart, hlines, hfind]
  simp only [hdata, parser.undoes_dumps]
  rw [h, if_neg (List.cons_ne_nil _ _), if_neg]
  intro hdone
  exact absurd (List.cons.inj hdone).1 (by decide)

/-! ### Events -/

variable (completion : Completion) (rest : List Char)

/-- The parts of an event and what follows. -/
theorem splitBlank_sseData (value : JsValue) :
    splitBlank ((sseData value).toList ++ rest) = dataLine value :: splitBlank rest := by
  rw [sseData_toList, List.append_assoc]
  exact splitBlank_line (dataLine_no_break value) rest

/-- An event that only yields: its delta comes before what follows. -/
theorem handleParts_next {fields : List (String × JsValue)} {delta : Option JsValue}
    (h : handleEvent (.obj fields) = .next delta) :
    handleParts parser.parse (splitBlank ((sseData (.obj fields)).toList ++ rest)) =
      (delta.toList ++ (handleParts parser.parse (splitBlank rest)).1,
        (handleParts parser.parse (splitBlank rest)).2) := by
  rw [splitBlank_sseData, handleParts, handlePart_dataLine, h]

/-- A chunk of a completion yields the content of its delta. -/
theorem handleEvent_chunk (delta : List (String × String)) (finish_reason : Option String) :
    handleEvent (chatCompletionChunk completion.completion_id completion.created delta
      finish_reason completion.model) =
        let content := member? (some (.obj (delta.map fun field => (field.1, .str field.2)))) "content"
        .next (if truthy content then content else none) := rfl

/-- A comment line is skipped. -/
theorem handlePart_comment (n : Nat) :
    handlePart parser.parse (':' :: List.replicate n ' ') = .next none := by
  have hlines : (':' :: List.replicate n ' ').splitOn '\n' = [':' :: List.replicate n ' '] :=
    List.splitOn_eq_singleton (by simp)
  rw [handlePart, hlines]
  rfl

/-- The padding comment is skipped and the role yields nothing. -/
theorem handleParts_role :
    handleParts parser.parse (splitBlank (completion.roleEvent.toList ++ rest)) =
      handleParts parser.parse (splitBlank rest) := by
  have hpad : ∀ n, '\n' ∉ ':' :: List.replicate n ' ' := by simp
  have htext : completion.roleEvent.toList ++ rest =
      (':' :: List.replicate 2048 ' ') ++ '\n' :: '\n' ::
        ((completion.event [("role", "assistant")] none).toList ++ rest) := by
    rw [Completion.roleEvent, String.toList_append, String.toList_append, String.toList_append,
      String.toList_ofList, String.toList_ofList, List.append_assoc, List.append_assoc,
      List.append_assoc, show "\n\n".toList = ['\n', '\n'] from rfl]
    generalize List.replicate 2048 ' ' = padding
    simp only [List.cons_append, List.nil_append]
  rw [htext, splitBlank_line (hpad _), handleParts, handlePart_comment, Completion.event,
    chatCompletionChunk,
    handleParts_next parser rest (handleEvent_chunk completion [("role", "assistant")] none)]
  rfl

/-- A content is yielded. -/
theorem handleParts_content {content : String} (h : content ≠ "") :
    handleParts parser.parse (splitBlank ((completion.contentEvent content).toList ++ rest)) =
      (.str content :: (handleParts parser.parse (splitBlank rest)).1,
        (handleParts parser.parse (splitBlank rest)).2) := by
  have hcontent : member? (some (.obj ([("content", content)].map fun field =>
      (field.1, (.str field.2 : JsValue))))) "content" = some (.str content) := rfl
  have htruthy : truthy (some (.str content)) = true := decide_eq_true h
  rw [Completion.contentEvent, Completion.event, chatCompletionChunk,
    handleParts_next parser rest (handleEvent_chunk completion [("content", content)] none),
    hcontent, htruthy]
  rfl

theorem handleParts_contents {contents : List String} (h : ∀ content ∈ contents, content ≠ "") :
    handleParts parser.parse (splitBlank
        (streamText (contents.map completion.contentEvent) ++ rest)) =
      (contents.map .str ++ (handleParts parser.parse (splitBlank rest)).1,
        (handleParts parser.parse (splitBlank rest)).2) := by
  induction contents with
  | nil => rfl
  | cons content contents ih =>
      obtain ⟨hcontent, hcontents⟩ := List.forall_mem_cons.mp h
      rw [List.map_cons, streamText_cons, List.append_assoc,
        handleParts_content parser completion _ hcontent, ih hcontents]
      rfl

/-- The last event ends the reader. -/
theorem handleParts_done :
    handleParts parser.parse (splitBlank (sseDone.toList ++ rest)) = ([], some .returned) := by
  have hline : sseDone.toList ++ rest = (dataPrefix ++ doneData) ++ '\n' :: '\n' :: rest := rfl
  rw [hline, splitBlank_line (by decide)]
  rfl

/-- How the reader ends for each end of the server's stream. -/
def outcomeOf : Except AnswerError Unit → Outcome
  | .ok () => .returned
  | .error error => .thrown (.apiError 502 (.str error.code)
      (orElse (some (.str error.message)) (.str "Stream failed")))

theorem handleParts_end (ending : Except AnswerError Unit) :
    handleParts parser.parse (splitBlank (streamText (completion.endEvents ending))) =
      ([], some (outcomeOf ending)) := by
  rcases ending with error | ⟨⟩
  · have hevent : handleEvent (.obj [("error", .obj [("code", .str error.code),
        ("message", .str error.message), ("request_id", .str completion.request_id)])]) =
          .thrown (.apiError 502 (.str error.code)
            (orElse (some (.str error.message)) (.str "Stream failed"))) := by
      cases error <;> rfl
    rw [Completion.endEvents, streamText_cons, Completion.errorEvent, sseError,
      splitBlank_sseData, handleParts, handlePart_dataLine, hevent]
    rfl
  · rw [Completion.endEvents, streamText_cons, Completion.stopEvent, Completion.event,
      chatCompletionChunk,
      handleParts_next parser _ (handleEvent_chunk completion [] (some "stop")),
      streamText_cons, handleParts_done]
    rfl

/-- **The browser decodes exactly what the server encoded.** -/
theorem streamMessage_decodes (decoder : TextDecoder) (contents : AnswerSequence)
    (response : Response) (chunks : List (List UInt8)) (hok : response.ok = true)
    (hbody : response.body = some chunks)
    (hchunks : chunks.flatten = utf8Bytes (streamText (streamed completion contents))) :
    streamMessage parser.parse decoder response =
      ((contents.chunks.filter (· ≠ "")).map .str, outcomeOf contents.ending) := by
  have hkept : ∀ content ∈ contents.chunks.filter (· ≠ ""), content ≠ "" := fun content hcontent => by
    simpa using (List.mem_filter.mp hcontent).2
  have htext : streamText (streamed completion contents) = completion.roleEvent.toList ++
      (streamText ((contents.chunks.filter (· ≠ "")).map completion.contentEvent) ++
        streamText (completion.endEvents contents.ending)) := by
    rw [streamed_eq, streamText_cons, streamText_append]
  have hmark : (streamText (streamed completion contents)).head? ≠ some '\uFEFF' := by
    rw [htext, Completion.roleEvent, String.toList_append, String.toList_append,
      String.toList_append, List.append_assoc, List.append_assoc, List.append_assoc]
    exact fun h => absurd (Option.some.inj h) (by decide)
  have hdecoded := decoder.streaming chunks _ hmark hchunks
  have hparts : handleParts parser.parse (splitBlank (streamText (streamed completion contents))) =
      ((contents.chunks.filter (· ≠ "")).map .str, some (outcomeOf contents.ending)) := by
    rw [htext, handleParts_role, handleParts_contents parser completion _ hkept, handleParts_end,
      List.append_nil]
  rw [streamMessage, hok, hbody]
  change readLoop parser.parse decoder decoder.start [] chunks = _
  rw [readLoop_eq, List.nil_append, hdecoded, hparts]
  rfl

theorem flatten_bytes (bytes : List UInt8) : (bytes.map fun byte => [byte]).flatten = bytes := by
  induction bytes with
  | nil => rfl
  | cons byte bytes ih => rw [List.map_cons, List.flatten_cons, ih, List.singleton_append]

/-- A content with a blank line and a `[DONE]` line of its own, byte by byte. -/
theorem streamMessage_decodes_bytes :
    streamMessage jsonText.parse .incremental ⟨true, 200, "OK", none,
        some ((utf8Bytes (streamText (streamed ⟨"chatcmpl-1", 0, "r", "m"⟩
          ⟨["Well,", "", "\n\ndata: [DONE]\n\nnoon é"], .ok (), .ok ()⟩))).map fun byte => [byte])⟩ =
      ((["Well,", "", "\n\ndata: [DONE]\n\nnoon é"].filter (· ≠ "")).map .str, .returned) :=
  streamMessage_decodes jsonText ⟨"chatcmpl-1", 0, "r", "m"⟩ .incremental
    ⟨["Well,", "", "\n\ndata: [DONE]\n\nnoon é"], .ok (), .ok ()⟩ _ _ rfl rfl (flatten_bytes _)

end Gui
end HomeCortex
