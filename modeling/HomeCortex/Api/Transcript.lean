/-
# The transcript stores what was shown

A conversation's answer goes two ways: as events to the client and, when the stream is
over, to the store.  Two generators nest here, each with its `finally`, and a stream can
be closed at any event or be cancelled while the model's next chunk is awaited.
`conversationStream_transcript` says what holds in every such run: one call of the
persist callback at most, with the chunks that were taken, which are the contents that
were sent.
-/

import HomeCortex.Api.Sse

namespace HomeCortex
namespace Api

/-- What is seen of an answer while it is served. -/
abbrev AnswerEvent := Event AnswerWait AnswerError String

/-- The events that were sent. -/
def sent (events : List AnswerEvent) : List String :=
  events.filterMap fun
    | .item text => some text
    | _ => none

/-- The calls of the persist callback. -/
def persisted (events : List AnswerEvent) : List String :=
  events.filterMap fun
    | .awaited (.persist answer) _ => some answer
    | _ => none

/-- How often the source answered. -/
def answers (events : List AnswerEvent) : Nat :=
  (events.filter fun
    | .awaited .chunk (.ok ()) => true
    | _ => false).length

section Events

variable (events : List AnswerEvent) (text answer : String) (reply : Except (Thrown AnswerError) Unit)

@[simp] theorem sent_nil : sent [] = [] := rfl
@[simp] theorem sent_item : sent (.item text :: events) = text :: sent events := rfl
@[simp] theorem sent_closed : sent (.closed :: events) = sent events := rfl
@[simp] theorem sent_awaited (wait : AnswerWait) :
    sent (.awaited wait reply :: events) = sent events := rfl

@[simp] theorem persisted_nil : persisted [] = [] := rfl
@[simp] theorem persisted_item : persisted (.item text :: events) = persisted events := rfl
@[simp] theorem persisted_closed : persisted (.closed :: events) = persisted events := rfl
@[simp] theorem persisted_chunk : persisted (.awaited .chunk reply :: events) = persisted events := rfl
@[simp] theorem persisted_persist :
    persisted (.awaited (.persist answer) reply :: events) = answer :: persisted events := rfl

@[simp] theorem sent_append (later : List AnswerEvent) :
    sent (events ++ later) = sent events ++ sent later := List.filterMap_append

@[simp] theorem persisted_append (later : List AnswerEvent) :
    persisted (events ++ later) = persisted events ++ persisted later := List.filterMap_append

@[simp] theorem answers_append (later : List AnswerEvent) :
    answers (events ++ later) = answers events + answers later := by
  simp [answers]

@[simp] theorem answers_nil : answers [] = 0 := rfl
@[simp] theorem answers_item : answers (.item text :: events) = answers events := rfl
@[simp] theorem answers_closed : answers (.closed :: events) = answers events := rfl
@[simp] theorem answers_chunk :
    answers (.awaited .chunk (.ok ()) :: events) = answers events + 1 := rfl
@[simp] theorem answers_cancelled (error : Thrown AnswerError) :
    answers (.awaited .chunk (.error error) :: events) = answers events := rfl
@[simp] theorem answers_persist :
    answers (.awaited (.persist answer) reply :: events) = answers events := rfl

end Events

/-- The client closed the response, or the task was cancelled. -/
def StoppedEarly (events : List AnswerEvent) : Prop :=
  .closed ∈ events ∨ ∃ wait, .awaited wait (.error .cancelled) ∈ events

/-- The non-empty chunks that were taken from a source. -/
def taken (chunks : List String) (events : List AnswerEvent) : List String :=
  (chunks.take (answers events)).filter (· ≠ "")

/-- The events after the contents: a stop chunk or an error event, then `[DONE]`. -/
def Completion.endEvents (completion : Completion) : Except AnswerError Unit → List String
  | .ok () => [completion.stopEvent, sseDone]
  | .error error => [completion.errorEvent error, sseDone]

/-- A sequence of chunks that ends normally or by an exception. -/
structure AnswerSequence where
  chunks : List String
  ending : Except AnswerError Unit
  onExit : Except (Thrown AnswerError) Unit

/-- The source of a sequence. -/
def AnswerSequence.source (sequence : AnswerSequence) : AnswerStream :=
  .fresh (answerSource (sequence.ending.mapError .exception) sequence.onExit sequence.chunks)

/-- The source always answers; the persist callback may raise an exception. -/
def answering (persist : String → Except AnswerError Unit) :
    AnswerWait → Except (Thrown AnswerError) Unit
  | .chunk => .ok ()
  | .persist answer => (persist answer).mapError .exception

/-- The events of one answered message. -/
def served (completion : Completion) (sequence : AnswerSequence)
    (persist : String → Except AnswerError Unit) (stop : Stop) : List AnswerEvent :=
  (conversationStream completion sequence.source).serve (answering persist) (· = .chunk) stop

/-! ### The two generators from a chunk on -/

section Running

/-- A running coroutine of one of the generators. -/
abbrev Running := Coroutine AnswerWait AnswerError String (Except (Thrown AnswerError) Unit)

variable (completion : Completion)

/-- The execution of the route. -/
def routeExecution : AnswerExecution := ⟨.finished, some .persist⟩

/-- `tokens` with a loop in progress. -/
def tokensFrom (loop : Frame AnswerWait AnswerError String (AnswerStream × List String) Unit) :
    Running :=
  ((Frame.ensure loop (routeExecution.finish true)).exec (.finished, [])).bind fun result =>
    .ret result.1

/-- `stream_chat_completion` with its loop in progress. -/
def streamFrom (loop : Frame AnswerWait AnswerError String (AnswerStream × Unit) Unit) : Running :=
  ((Frame.ensure
    (tryCatch
      (do
        loop
        Frame.emit completion.stopEvent
        Frame.emit sseDone)
      completion.onError)
    (Frame.suppress cancelledOrException Frame.aclose)).exec (.finished, ())).bind fun result =>
    .ret result.1

/-- The loop over the source. -/
def takeFrom (source : Running) (collected : List String) :
    Frame AnswerWait AnswerError String (AnswerStream × List String) Unit :=
  fun _ => Frame.loop takeChunk source collected

/-- The loop over the tokens. -/
def sendFrom (tokens : Running) :
    Frame AnswerWait AnswerError String (AnswerStream × Unit) Unit :=
  fun _ => Frame.loop completion.sendContent tokens ()

theorem streamChatCompletion_generator (tokens : Running) :
    completion.streamChatCompletion.generator (.fresh tokens, ()) =
      .fresh (.yield completion.roleEvent fun
        | .ok () => streamFrom completion (sendFrom completion tokens)
        | .error error => streamFrom completion fun _ =>
            .ret (.error error, .fresh tokens, ())) := by
  refine congrArg Generator.fresh (congrArg (Coroutine.yield completion.roleEvent) ?_)
  funext answer
  rcases answer with error | ⟨⟩ <;> rfl

theorem conversationStream_eq (source : Running) :
    conversationStream completion (.fresh source) =
      completion.streamChatCompletion.generator
        (.fresh (tokensFrom (takeFrom source [])), ()) := rfl

variable (op : AnswerWait) (resume : Except (Thrown AnswerError) Unit → Running)

theorem streamFrom_await :
    streamFrom completion (sendFrom completion (.await op resume)) =
      .await op fun answer => streamFrom completion (sendFrom completion (resume answer)) := rfl

theorem tokensFrom_await (collected : List String) :
    tokensFrom (takeFrom (.await op resume) collected) =
      .await op fun answer => tokensFrom (takeFrom (resume answer) collected) := rfl

/-- A loop body raised at an item: the loop ends there, its generator suspended. -/
def raisedAt {σ : Type} (error : Thrown AnswerError) (s : σ) :
    Frame AnswerWait AnswerError String (AnswerStream × σ) Unit :=
  fun _ => .ret (.error error, .suspended resume, s)

theorem streamFrom_yield {content : String} (h : content ≠ "") :
    streamFrom completion (sendFrom completion (.yield content resume)) =
      .yield (completion.contentEvent content) fun
        | .ok () => streamFrom completion (sendFrom completion (resume (.ok ())))
        | .error error => streamFrom completion (raisedAt resume error ()) := by
  have hbody : (completion.sendContent content).exec () =
      .yield (completion.contentEvent content) fun answer => .ret (answer, ()) := by
    rw [Completion.sendContent, if_pos h]
    rfl
  have hloop : sendFrom completion (.yield content resume) = fun _ => _ :=
    funext fun _ => Frame.loop_yield hbody
  rw [streamFrom, hloop]
  refine congrArg (Coroutine.yield (completion.contentEvent content)) ?_
  funext answer
  rcases answer with error | ⟨⟩ <;> rfl

theorem sendFrom_yield_empty :
    sendFrom completion (.yield "" resume) = sendFrom completion (resume (.ok ())) :=
  funext fun _ => Frame.loop_skip rfl

theorem tokensFrom_yield {chunk : String} (h : chunk ≠ "") (collected : List String) :
    tokensFrom (takeFrom (.yield chunk resume) collected) =
      .yield chunk fun
        | .ok () => tokensFrom (takeFrom (resume (.ok ())) (collected ++ [chunk]))
        | .error error => tokensFrom (raisedAt resume error (collected ++ [chunk])) := by
  have hbody : (takeChunk chunk).exec collected =
      .yield chunk fun answer => .ret (answer, collected ++ [chunk]) := by
    rw [takeChunk, if_pos h]
    rfl
  have hloop : takeFrom (.yield chunk resume) collected = fun _ => _ :=
    funext fun _ => Frame.loop_yield hbody
  rw [tokensFrom, hloop]
  refine congrArg (Coroutine.yield chunk) ?_
  funext answer
  rcases answer with error | ⟨⟩ <;> rfl

theorem tokensFrom_yield_empty (collected : List String) :
    tokensFrom (takeFrom (.yield "" resume) collected) =
      tokensFrom (takeFrom (resume (.ok ())) collected) := by
  have hloop : takeFrom (.yield "" resume) collected = fun _ => _ :=
    funext fun _ => Frame.loop_skip rfl
  rw [tokensFrom, hloop]
  rfl

/-! After the loop over the source: the source is closed and the answer persisted. -/

/-- What `tokens` does when its loop has ended in `outcome`. -/
def tokensEnd (outcome : Except (Thrown AnswerError) Unit) (collected : List String) : Running :=
  if String.join collected = "" then .ret outcome
  else .await (.persist (String.join collected)) fun
    | .ok () => .ret outcome
    | .error error => .ret (if error.isException then outcome else .error error)

/-- Closing the source raises nothing that is not suppressed. -/
def Quiet (source : AnswerStream) : Prop :=
  ∀ collected : List String, (Frame.suppress cancelledOrException Frame.aclose).exec
    (source, collected) = (.ret (.ok (), .finished, collected) :
      Coroutine AnswerWait AnswerError String _)

theorem quiet_finished : Quiet .finished := fun _ => rfl

/-- A source at one of its chunks closes as its own cleanup says. -/
theorem quiet_suspended {resume : Except (Thrown AnswerError) Unit → Running}
    {onExit : Except (Thrown AnswerError) Unit}
    (h : resume (.error .generatorExit) = .ret onExit) : Quiet (.suspended resume) := by
  intro collected
  have hclose : (Frame.aclose : Frame AnswerWait AnswerError String _ Unit).exec
      (.suspended resume, collected) =
        (Coroutine.closing (.ret onExit : Running)).bind fun outcome =>
          .ret (outcome, .finished, collected) := by
    rw [← h]
    rfl
  change Coroutine.bind (Frame.exec _ _) _ = _
  rw [hclose]
  rcases onExit with (_ | _ | _ | _) | ⟨⟩ <;> rfl

theorem tokensFrom_end {source : AnswerStream} (h : Quiet source)
    (outcome : Except (Thrown AnswerError) Unit) (collected : List String) :
    tokensFrom (fun _ => .ret (outcome, source, collected)) = tokensEnd outcome collected := by
  change (((((Frame.suppress cancelledOrException Frame.aclose).exec (source, collected)).bind _).bind
    _).bind _) = _
  rw [h]
  change Coroutine.bind (Coroutine.bind (Frame.exec (if String.join collected ≠ "" then _ else _ :
    Frame AnswerWait AnswerError String (AnswerStream × List String) Unit) _) _) _ = _
  rw [tokensEnd]
  by_cases hjoin : String.join collected = ""
  · rw [if_pos hjoin, if_neg (not_not_intro hjoin)]
    rfl
  · rw [if_neg hjoin, if_pos hjoin]
    refine congrArg (Coroutine.await (AnswerWait.persist (String.join collected))) ?_
    funext answer
    rcases answer with (_ | _ | _ | _) | ⟨⟩ <;> rfl

theorem tokensFrom_ret (outcome : Except (Thrown AnswerError) Unit) (collected : List String) :
    tokensFrom (takeFrom (.ret outcome) collected) = tokensEnd outcome collected :=
  tokensFrom_end quiet_finished outcome collected

/-- What `stream_chat_completion` does when its loop has ended in `outcome`, the tokens finished. -/
def streamEnd (outcome : Except (Thrown AnswerError) Unit) : Running :=
  streamFrom completion fun _ => .ret (outcome, .finished, ())

theorem streamFrom_ret (outcome : Except (Thrown AnswerError) Unit) :
    streamFrom completion (sendFrom completion (.ret outcome)) = streamEnd completion outcome := rfl

end Running

/-! ### Runs -/

section Runs

variable (completion : Completion) (persist : String → Except AnswerError Unit)

/-- The calls of the persist callback that these chunks make. -/
def persistCalls (collected : List String) : List String :=
  if String.join collected = "" then [] else [String.join collected]

/-- The calls as events. -/
def persistEvents (collected : List String) : List AnswerEvent :=
  (persistCalls collected).map fun answer =>
    .awaited (.persist answer) (answering persist (.persist answer))

/-- The persist callback raises exceptions only. -/
theorem answering_persist (answer : String) :
    answering persist (.persist answer) = .ok () ∨
      ∃ error, answering persist (.persist answer) = .error (.exception error) := by
  simp only [answering]
  rcases persist answer with error | ⟨⟩
  · exact .inr ⟨error, rfl⟩
  · exact .inl rfl

/-- The tokens end: the answer is persisted, and the loop ends as the tokens did. -/
theorem run_tokensEnd (stop : Stop) (outcome : Except (Thrown AnswerError) Unit)
    (collected : List String) :
    (streamFrom completion (sendFrom completion (tokensEnd outcome collected))).run
        (answering persist) (· = .chunk) stop =
      persistEvents persist collected ++
        (streamEnd completion outcome).run (answering persist) (· = .chunk) stop := by
  rw [tokensEnd, persistEvents, persistCalls]
  split
  case isTrue => rfl
  case isFalse =>
    rw [streamFrom_await, Coroutine.run_await_steady rfl]
    rcases answering_persist persist (String.join collected) with h | ⟨error, h⟩ <;>
      simp [h, Thrown.isException, streamFrom_ret]

/-- Closed at a content: the answer is persisted and nothing more is sent. -/
theorem drain_closed {resume : Except (Thrown AnswerError) Unit → Running} {collected : List String}
    (h : resume (.error .generatorExit) = tokensEnd (.error .generatorExit) collected) :
    Coroutine.drain (answering persist)
        (streamFrom completion (raisedAt resume .generatorExit ())).closing =
      persistEvents persist collected := by
  change Coroutine.drain (answering persist) (Coroutine.closing (Coroutine.bind (Coroutine.bind
    (Coroutine.bind (Coroutine.bind (Coroutine.closing (resume (.error .generatorExit))) _) _) _) _)) = _
  rw [h, tokensEnd, persistEvents, persistCalls]
  split
  case isTrue => rfl
  case isFalse =>
    refine congrArg (List.cons _) ?_
    rcases answering_persist persist (String.join collected) with hp | ⟨error, hp⟩ <;> rw [hp] <;> rfl

/-- Cancelled: the exception is raised again and nothing more is sent. -/
theorem run_streamEnd_cancelled :
    (streamEnd completion (.error .cancelled)).run (answering persist) (· = .chunk) .never = [] := rfl

/-- What holds of the events from a point on at which `collected` was taken. -/
structure Told (ending : Except AnswerError Unit) (collected chunks : List String)
    (events : List AnswerEvent) : Prop where
  sent_eq : ∃ rest, sent events = (taken chunks events).map completion.contentEvent ++ rest ∧
    rest <+: completion.endEvents ending ∧
    (¬ StoppedEarly events → rest = completion.endEvents ending)
  persisted_eq : persisted events = persistCalls (collected ++ taken chunks events)

variable {completion persist} {ending : Except AnswerError Unit} {collected chunks : List String}
  {events : List AnswerEvent}

theorem stoppedEarly_cons {event : AnswerEvent} (h : StoppedEarly events) :
    StoppedEarly (event :: events) :=
  h.imp (List.mem_cons_of_mem _) fun ⟨wait, hwait⟩ => ⟨wait, List.mem_cons_of_mem _ hwait⟩

theorem Told.skip (h : Told completion ending collected chunks events) :
    Told completion ending collected ("" :: chunks) (.awaited .chunk (.ok ()) :: events) := by
  obtain ⟨rest, hsent, hprefix, hend⟩ := h.sent_eq
  have htaken : taken ("" :: chunks) (.awaited .chunk (.ok ()) :: events) = taken chunks events := by
    simp [taken]
  refine ⟨⟨rest, by rw [htaken]; exact hsent, hprefix, fun hstop => hend fun h => hstop ?_⟩, ?_⟩
  · exact stoppedEarly_cons h
  · rw [htaken]
    exact h.persisted_eq

theorem Told.take {chunk : String} (hchunk : chunk ≠ "")
    (h : Told completion ending (collected ++ [chunk]) chunks events) :
    Told completion ending collected (chunk :: chunks)
      (.awaited .chunk (.ok ()) :: .item (completion.contentEvent chunk) :: events) := by
  obtain ⟨rest, hsent, hprefix, hend⟩ := h.sent_eq
  have htaken : taken (chunk :: chunks)
      (.awaited .chunk (.ok ()) :: .item (completion.contentEvent chunk) :: events) =
        chunk :: taken chunks events := by
    simp [taken, hchunk]
  refine ⟨⟨rest, ?_, hprefix, fun hstop => hend fun h => hstop ?_⟩, ?_⟩
  · rw [htaken, sent_awaited, sent_item, hsent]
    rfl
  · exact stoppedEarly_cons (stoppedEarly_cons h)
  · rw [htaken, persisted_chunk, persisted_item, h.persisted_eq, List.append_assoc]
    rfl

@[simp] theorem sent_persistEvents : sent (persistEvents persist collected) = [] := by
  unfold persistEvents persistCalls
  split <;> rfl

@[simp] theorem persisted_persistEvents :
    persisted (persistEvents persist collected) = persistCalls collected := by
  unfold persistEvents persistCalls
  split <;> rfl

@[simp] theorem answers_persistEvents : answers (persistEvents persist collected) = 0 := by
  unfold persistEvents persistCalls
  split <;> rfl

/-- The events after the contents, and how a run over them ends. -/
theorem run_streamEnd (stop : Stop) :
    let events := (streamEnd completion (ending.mapError .exception)).run (answering persist)
      (· = .chunk) stop
    persisted events = [] ∧ answers events = 0 ∧ sent events <+: completion.endEvents ending ∧
      (¬ StoppedEarly events → sent events = completion.endEvents ending) := by
  have hclosed : ∀ (first : List AnswerEvent) (last : List AnswerEvent),
      StoppedEarly (first ++ .closed :: last) := fun first last => .inl (by simp)
  rcases ending with error | ⟨⟩
  all_goals
    rcases stop with _ | (_ | _ | n) | n
    case never => exact ⟨rfl, rfl, List.prefix_rfl, fun _ => rfl⟩
    case cancel => exact ⟨rfl, rfl, List.prefix_rfl, fun _ => rfl⟩
    case close.zero =>
      exact ⟨rfl, rfl, ⟨[sseDone], rfl⟩, fun hstop => absurd (hclosed [.item _] []) hstop⟩
    case close.succ.zero =>
      exact ⟨rfl, rfl, List.prefix_rfl, fun _ => rfl⟩
    case close.succ.succ => exact ⟨rfl, rfl, List.prefix_rfl, fun _ => rfl⟩

/-- The source has ended: the answer is persisted, then the last events follow. -/
theorem Told.ended (stop : Stop) :
    Told completion ending collected [] (.awaited .chunk (.ok ()) ::
      (persistEvents persist collected ++
        (streamEnd completion (ending.mapError .exception)).run (answering persist)
          (· = .chunk) stop)) := by
  obtain ⟨hpersisted, -, hprefix, hend⟩ := @run_streamEnd completion persist ending stop
  refine ⟨⟨_, ?_, hprefix, fun hstop => hend fun h => hstop ?_⟩, ?_⟩
  · simp [taken]
  · refine stoppedEarly_cons ?_
    exact h.imp (List.mem_append_right _) fun ⟨wait, hwait⟩ => ⟨wait, List.mem_append_right _ hwait⟩
  · simp [taken, hpersisted]

/-- Cancelled while a chunk is awaited. -/
theorem Told.cancelled :
    Told completion ending collected chunks
      (.awaited .chunk (.error .cancelled) :: persistEvents persist collected) := by
  refine ⟨⟨[], ?_, List.nil_prefix, fun hstop => absurd ?_ hstop⟩, ?_⟩
  · simp [taken]
  · exact .inr ⟨.chunk, List.mem_cons_self⟩
  · simp [taken]

/-- Closed at a content. -/
theorem Told.closed {chunk : String} (hchunk : chunk ≠ "") :
    Told completion ending collected (chunk :: chunks)
      (.awaited .chunk (.ok ()) :: .item (completion.contentEvent chunk) :: .closed ::
        persistEvents persist (collected ++ [chunk])) := by
  refine ⟨⟨[], ?_, List.nil_prefix, fun hstop => absurd (.inl (by simp)) hstop⟩, ?_⟩
  · simp [taken, hchunk]
  · simp [taken, hchunk]

variable (completion persist ending) in
/-- The loop over the source, from any chunk on. -/
theorem told_run (onExit : Except (Thrown AnswerError) Unit) (chunks collected : List String)
    (stop : Stop) :
    Told completion ending collected chunks
      ((streamFrom completion (sendFrom completion (tokensFrom (takeFrom
        (answerSource (ending.mapError .exception) onExit chunks) collected)))).run
          (answering persist) (· = .chunk) stop) := by
  induction chunks generalizing collected stop with
  | nil =>
      rw [answerSource, tokensFrom_await, streamFrom_await]
      have hended : ∀ stop, (streamFrom completion (sendFrom completion (tokensFrom (takeFrom
          (.ret (ending.mapError .exception)) collected)))).run (answering persist)
            (· = .chunk) stop = persistEvents persist collected ++
              (streamEnd completion (ending.mapError .exception)).run (answering persist)
                (· = .chunk) stop := fun stop => by
        rw [tokensFrom_ret, run_tokensEnd]
      rcases stop with _ | n | _ | n
      case never =>
        rw [Coroutine.run_await_never]
        simp only [answering, hended]
        exact .ended .never
      case close =>
        rw [Coroutine.run_await_close]
        simp only [answering, hended]
        exact .ended _
      case cancel.zero =>
        rw [Coroutine.run_await_cancelled rfl]
        simp only [tokensFrom_ret, run_tokensEnd, run_streamEnd_cancelled, List.append_nil]
        exact .cancelled
      case cancel.succ =>
        rw [Coroutine.run_await_later rfl]
        simp only [answering, hended]
        exact .ended _
  | cons chunk chunks ih =>
      rw [answerSource, tokensFrom_await, streamFrom_await]
      -- What follows the answer of the source: nothing for an empty chunk, else one event.
      have hgo : ∀ stop, Told completion ending collected (chunk :: chunks)
          (.awaited .chunk (.ok ()) :: (streamFrom completion (sendFrom completion (tokensFrom
            (takeFrom (.yield chunk fun
              | .ok () => answerSource (ending.mapError .exception) onExit chunks
              | .error _ => .ret onExit) collected)))).run (answering persist) (· = .chunk) stop) := by
        intro stop
        rcases eq_or_ne chunk "" with rfl | hchunk
        · rw [tokensFrom_yield_empty]
          exact (ih collected stop).skip
        rw [tokensFrom_yield _ hchunk, streamFrom_yield _ _ hchunk]
        rcases stop with _ | (_ | n) | n
        case never =>
          rw [Coroutine.run_yield_never]
          exact (ih (collected ++ [chunk]) .never).take hchunk
        case close.zero =>
          have hquiet : Quiet (.suspended fun
              | .ok () => answerSource (ending.mapError .exception) onExit chunks
              | .error _ => .ret onExit) := @quiet_suspended _ onExit rfl
          rw [Coroutine.run_yield_closed, drain_closed completion persist
            (tokensFrom_end hquiet (.error .generatorExit) (collected ++ [chunk]))]
          exact .closed hchunk
        case close.succ =>
          rw [Coroutine.run_yield_later]
          exact (ih (collected ++ [chunk]) (.close n)).take hchunk
        case cancel =>
          rw [Coroutine.run_yield_cancel]
          exact (ih (collected ++ [chunk]) (.cancel n)).take hchunk
      rcases stop with _ | n | _ | n
      case never =>
        rw [Coroutine.run_await_never]
        exact hgo .never
      case close =>
        rw [Coroutine.run_await_close]
        exact hgo (.close n)
      case cancel.zero =>
        rw [Coroutine.run_await_cancelled rfl]
        simp only [tokensFrom_ret, run_tokensEnd, run_streamEnd_cancelled, List.append_nil]
        exact .cancelled
      case cancel.succ =>
        rw [Coroutine.run_await_later rfl]
        exact hgo (.cancel n)

end Runs

/-- Non-empty chunks have a non-empty concatenation. -/
theorem join_eq_empty {chunks : List String} (h : ∀ chunk ∈ chunks, chunk ≠ "") :
    String.join chunks = "" ↔ chunks = [] := by
  cases chunks with
  | nil => simp
  | cons chunk chunks =>
      have hchunk : chunk ≠ "" := h chunk List.mem_cons_self
      simp [String.join_cons, hchunk]

/-- **The transcript stores what was shown.**  For every answer stream, every exception
of the persist callback, and whether the client closes the response at any point or a
cancellation arrives while any chunk is awaited: the callback is called once with the
concatenation of the non-empty chunks that were taken, or not at all when there were
none; these chunks are the contents that were sent, in order; and unless the consumer
stopped early, a stop chunk or an error event and then `[DONE]` follow them. -/
theorem conversationStream_transcript (completion : Completion) (sequence : AnswerSequence)
    (persist : String → Except AnswerError Unit) (stop : Stop) :
    let events := served completion sequence persist stop
    let taken := taken sequence.chunks events
    persisted events = (if taken = [] then [] else [String.join taken]) ∧
      ((sent events = [] ∧ taken = [] ∧ StoppedEarly events) ∨
        ∃ rest, sent events = completion.roleEvent :: (taken.map completion.contentEvent ++ rest) ∧
          rest <+: completion.endEvents sequence.ending ∧
          (¬ StoppedEarly events → rest = completion.endEvents sequence.ending)) := by
  intro events chunksTaken
  -- Once the role event was sent, the rest of the run is the one of `told_run`.
  have hmain : ∀ stop, events = .item completion.roleEvent ::
      (streamFrom completion (sendFrom completion (tokensFrom (takeFrom (answerSource
        (sequence.ending.mapError .exception) sequence.onExit sequence.chunks) [])))).run
          (answering persist) (· = .chunk) stop →
      persisted events = (if chunksTaken = [] then [] else [String.join chunksTaken]) ∧
        ((sent events = [] ∧ chunksTaken = [] ∧ StoppedEarly events) ∨
          ∃ rest, sent events =
              completion.roleEvent :: (chunksTaken.map completion.contentEvent ++ rest) ∧
            rest <+: completion.endEvents sequence.ending ∧
            (¬ StoppedEarly events → rest = completion.endEvents sequence.ending)) := by
    intro stop hevents
    have htold := told_run completion persist sequence.ending sequence.onExit sequence.chunks [] stop
    obtain ⟨rest, hsent, hprefix, hend⟩ := htold.sent_eq
    have htaken : chunksTaken = _ := congrArg (taken sequence.chunks) hevents
    have hjoin : String.join chunksTaken = "" ↔ chunksTaken = [] :=
      join_eq_empty fun chunk hchunk => by simpa using (List.mem_filter.mp hchunk).2
    refine ⟨?_, .inr ⟨rest, ?_, hprefix, fun hstop => hend fun h => hstop ?_⟩⟩
    · rw [hevents, persisted_item, htold.persisted_eq, List.nil_append, persistCalls]
      simp only [← hjoin]
      rw [htaken]
      rfl
    · rw [hevents, sent_item, hsent, htaken]
      rfl
    · rw [hevents]
      exact stoppedEarly_cons h
  have hserved : events = (Generator.serve (answering persist) (· = .chunk) stop
    (conversationStream completion sequence.source)) := rfl
  rw [AnswerSequence.source, conversationStream_eq, streamChatCompletion_generator] at hserved
  rcases stop with _ | (_ | _ | n) | n
  case never => exact hmain .never hserved
  case close.zero => exact ⟨rfl, .inl ⟨rfl, rfl, .inl List.mem_cons_self⟩⟩
  case close.succ.zero =>
    have hevents : events = [.item completion.roleEvent, .closed] := hserved
    have htaken : chunksTaken = _ := congrArg (taken sequence.chunks) hevents
    rw [hevents, htaken]
    exact ⟨rfl, .inr ⟨[], rfl, List.nil_prefix, fun hstop => absurd (.inl (by simp)) hstop⟩⟩
  case close.succ.succ => exact hmain (.close n) hserved
  case cancel => exact hmain (.cancel n) hserved

/-! ### A stream that is read to its end -/

/-- The events of `stream_chat_completion` over a sequence of contents. -/
def streamed (completion : Completion) (contents : AnswerSequence) : List String :=
  sent ((completion.streamChatCompletion.generator (contents.source, ())).serve
    (answering fun _ => .ok ()) (· = .chunk) .never)

theorem sent_contents (completion : Completion) (ending : Except AnswerError Unit)
    (onExit : Except (Thrown AnswerError) Unit) (contents : List String) :
    sent ((streamFrom completion (sendFrom completion
      (answerSource (ending.mapError .exception) onExit contents))).run (answering fun _ => .ok ())
        (· = .chunk) .never) =
      (contents.filter (· ≠ "")).map completion.contentEvent ++ completion.endEvents ending := by
  induction contents with
  | nil =>
      rw [answerSource, streamFrom_await, Coroutine.run_await_never]
      rcases ending with error | ⟨⟩ <;> rfl
  | cons content contents ih =>
      rw [answerSource, streamFrom_await, Coroutine.run_await_never, sent_awaited]
      simp only [answering]
      rcases eq_or_ne content "" with rfl | hcontent
      · rw [sendFrom_yield_empty, ih]
        rfl
      · rw [streamFrom_yield _ _ hcontent, Coroutine.run_yield_never, sent_item]
        simp only [ih, List.filter_cons, hcontent, ne_eq, not_false_eq_true, decide_true, if_true,
          List.map_cons, List.cons_append]

/-- What a complete stream sends: the role, each non-empty content, and the end. -/
theorem streamed_eq (completion : Completion) (contents : AnswerSequence) :
    streamed completion contents = completion.roleEvent ::
      ((contents.chunks.filter (· ≠ "")).map completion.contentEvent ++
        completion.endEvents contents.ending) := by
  rw [streamed, AnswerSequence.source, streamChatCompletion_generator]
  exact congrArg (List.cons _) (sent_contents completion contents.ending contents.onExit
    contents.chunks)

/-- The client closes the response at the second content: both chunks are kept. -/
example : persisted (served ⟨"chatcmpl-1", 0, "r", "m"⟩ ⟨["It ", "", "is", " noon"], .ok (), .ok ()⟩
    (fun _ => .ok ()) (.close 3)) = ["It is"] := by decide

end Api
end HomeCortex
