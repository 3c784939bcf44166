/-
# A conversation replayed without its state

A request without a trusted conversation carries its user messages, and the service replays
them: it plans the last one, and answers an earlier one only if the plan refers to it, each at
most once (`_replay`, `_answer_prefix`).  The service of a conversation instead answers the
messages one after the other and remembers the foci (`try_answer`).  For a planner and a graph
that do not change in between both give the same answer (`stateless_agrees`), and the replay
raises only where some turn of the conversation does.
-/

import HomeCortex.Facts.Answers
import HomeCortex.Facts.DiscourseReads
import HomeCortex.Semantic.Turns

namespace HomeCortex

/-- What `try_answer` distinguishes of the planner: it fails, it sees several intents, a write, or
no question about facts, or it returns a request. -/
inductive Planned where
  | failed
  | multiIntent
  | mutation (intent : NamedWriteRequest)
  | ordinary
  | fact (request : Option SemanticFactRequest)

/-- `SemanticFactService`: its engine, and its planner, which reads the user messages and the
clock of a request. -/
structure SemanticFactService where
  engine : HouseholdFactEngine
  plan : List String → Clock → Planned

namespace SemanticFactService

variable (service : SemanticFactService)

/-- `safe_request`, where no request was planned. -/
def safeRequest : SemanticFactRequest where
  operation := .resolveReference
  subject := ⟨{ kind := .self, entity_type := some "person" }, by decide +kernel⟩
  exclude_bound := noExclude_bound
  amount_bound := noAmount_bound

/-- `_failure_answer`. -/
def failureAnswer (request : Option SemanticFactRequest) (status : FactStatus) : FactAnswer :=
  ⟨request.getD safeRequest, { status := status }⟩

/-- `answer_request`. -/
def answerRequest (request : SemanticFactRequest) (context : AgentRequestContext) :
    Except PyError FactAnswer :=
  if !service.engine.schema.validates request then
    .ok (failureAnswer (some request) .semanticPlanUnsupported)
  else do
    return ⟨request, ← service.engine.execute request context⟩

/-- `try_answer`. -/
def tryAnswer (messages : List String) (context : AgentRequestContext) :
    Except PyError TurnAnswer :=
  match service.plan messages context.current_time with
  | .failed | .fact none => .ok (.fact (failureAnswer none .semanticPlanUnsupported))
  | .multiIntent => .ok (.fact (failureAnswer none .multiIntentUnsupported))
  | .mutation intent => .ok (.mutation intent)
  | .ordinary => .ok .none
  | .fact (some request) =>
      if !service.engine.schema.validates request then
        .ok (.fact (failureAnswer (some request) .semanticPlanUnsupported))
      else .fact <$> service.answerRequest request context

end SemanticFactService

namespace SemanticConversation

/-! ### A conversation with its state -/

/-- The focus of a turn that ended in `outcome`; an interrupted turn leaves none. -/
def outcomeFocus : Except PyError TurnAnswer → List String
  | .ok answer => focus answer
  | .error _ => []

/-- The remembered messages and turns of a conversation, and the outcomes so far. -/
structure Session where
  messages : List String := []
  turns : List (List String) := []
  outcomes : List (Except PyError TurnAnswer) := []

section

variable (service : SemanticFactService) (context : AgentRequestContext) (conversation : String)

/-- One turn of `try_answer`, under the lock of the conversation. -/
def Session.turn (session : Session) (text : String) : Session :=
  let history := session.messages ++ [text]
  let outcome := service.tryAnswer history (context.withTurns conversation session.turns)
  { messages := lastTurns history
    turns := lastTurns (session.turns ++ [outcomeFocus outcome])
    outcomes := session.outcomes ++ [outcome] }

/-- The messages of a conversation, one after the other. -/
def converse (users : List String) : Session :=
  users.foldl (Session.turn service context conversation) {}

/-! ### A conversation without its state -/

/-- `_discourse_offsets`. -/
def discourseOffsets (request : SemanticFactRequest) : List Nat :=
  ((request.references.filter fun reference => reference.kind = .discourse).filterMap
    fun reference => reference.turn_offset).dedup.insertionSort (· ≤ ·)

/-- `memo`: the answers so far, by the number of messages they answer. -/
abbrev Memo := List (Nat × TurnAnswer)

variable (users : List String)

mutual

/-- `_answer_prefix`: the answer to the last of `last` messages. -/
def answerPrefix (last : Nat) (memo : Memo) : Except PyError (TurnAnswer × Memo) :=
  match memo.lookup last with
  | some answer => .ok (answer, memo)
  | none => do
      let empty_turns := List.replicate (last - 1) []
      let answer ← service.tryAnswer (users.take last) (context.withTurns conversation empty_turns)
      match answer with
      | .fact planned =>
          if discourseOffsets planned.request = [] then return (answer, (last, answer) :: memo)
          else
            let (turns, memo) ← antecedents last (discourseOffsets planned.request) empty_turns
              ((last, answer) :: memo)
            let resolved ← service.answerRequest planned.request
              (context.withTurns conversation (lastTurns turns))
            return (.fact resolved, (last, .fact resolved) :: memo)
      | _ => return (answer, (last, answer) :: memo)
termination_by (last, 1, 0)

/-- The loop over the offsets: each turn that is referred to gets its focus.  An offset is at
least one, so only the turns before the first are passed over. -/
def antecedents (last : Nat) (offsets : List Nat) (turns : List (List String)) (memo : Memo) :
    Except PyError (List (List String) × Memo) :=
  match offsets with
  | [] => .ok (turns, memo)
  | offset :: offsets =>
      if _h : 1 ≤ offset ∧ offset < last then do
        let (antecedent, memo) ← answerPrefix (last - offset) memo
        antecedents last offsets (turns.set (last - 1 - offset) (focus antecedent)) memo
      else antecedents last offsets turns memo
termination_by (last, 0, offsets.length)

end

/-- `_replay`. -/
def replay : Except PyError TurnAnswer :=
  Prod.fst <$> answerPrefix service context conversation users users.length []

/-- `try_answer` without a key: the last messages are replayed in a fresh conversation. -/
def stateless : Except PyError TurnAnswer :=
  replay service context conversation (users.drop (users.length - (maxDiscourseTurns + 1)))

end

/-! ### The turns of a conversation -/

theorem lastTurns_append {α : Type} (xs : List α) (x : α) :
    lastTurns (lastTurns xs ++ [x]) = lastTurns (xs ++ [x]) := by
  have hstep : lastTurns xs ++ [x] <:+ xs ++ [x] := by
    obtain ⟨earlier, heq⟩ := lastTurns_suffix xs
    exact ⟨earlier, by rw [← List.append_assoc, heq]⟩
  refine List.IsSuffix.eq_of_length
    (List.suffix_of_suffix_length_le ((lastTurns_suffix _).trans hstep) (lastTurns_suffix _) ?_) ?_
  all_goals
    simp only [lastTurns, List.length_drop, List.length_append, List.length_singleton]
    omega

theorem lastTurns_eq_self {α : Type} {xs : List α} (h : xs.length ≤ maxDiscourseTurns) :
    lastTurns xs = xs := by
  rw [lastTurns, Nat.sub_eq_zero_of_le h, List.drop_zero]

section

variable {service : SemanticFactService} {context : AgentRequestContext} {conversation : String}

theorem converse_append (users : List String) (text : String) :
    converse service context conversation (users ++ [text]) =
      (converse service context conversation users).turn service context conversation text := by
  simp only [converse, List.foldl_append, List.foldl_cons, List.foldl_nil]

/-- A conversation remembers its last messages and the foci of its last outcomes. -/
theorem converse_remembers (users : List String) :
    (converse service context conversation users).messages = lastTurns users ∧
    (converse service context conversation users).turns =
      lastTurns ((converse service context conversation users).outcomes.map outcomeFocus) ∧
    (converse service context conversation users).outcomes.length = users.length := by
  induction users using List.reverseRecOn with
  | nil => exact ⟨rfl, rfl, rfl⟩
  | append_singleton users text ih =>
      obtain ⟨hmessages, hturns, hlength⟩ := ih
      rw [converse_append]
      refine ⟨?_, ?_, ?_⟩
      · change lastTurns (_ ++ [text]) = _
        rw [hmessages, lastTurns_append]
      · change lastTurns (_ ++ [_]) = lastTurns (List.map outcomeFocus (_ ++ [_]))
        rw [hturns, lastTurns_append, List.map_append, List.map_singleton]
      · change (_ ++ [_]).length = _
        rw [List.length_append, List.length_append, hlength]
        rfl

/-- Later messages do not change earlier outcomes. -/
theorem converse_extends (users later : List String) :
    (converse service context conversation users).outcomes <+:
      (converse service context conversation (users ++ later)).outcomes := by
  induction later using List.reverseRecOn with
  | nil => rw [List.append_nil]
  | append_singleton later text ih =>
      rw [← List.append_assoc, converse_append]
      exact ih.trans (List.prefix_append _ _)

/-- The outcome of a turn, of a conversation that still remembers all before it. -/
theorem converse_outcome {users : List String} (hshort : users.length ≤ maxDiscourseTurns + 1)
    {last : Nat} (hpos : 1 ≤ last) (hlast : last ≤ users.length) :
    (converse service context conversation users).outcomes[last - 1]? =
      some (service.tryAnswer (users.take last) (context.withTurns conversation
        (((converse service context conversation users).outcomes.take (last - 1)).map
          outcomeFocus))) := by
  obtain ⟨k, rfl⟩ : ∃ k, last = k + 1 := ⟨last - 1, by omega⟩
  rw [Nat.add_sub_cancel]
  have hk : k < users.length := hlast
  have htake : users.take (k + 1) = users.take k ++ [users[k]] := List.take_succ_eq_append_getElem hk
  obtain ⟨hmessages, hturns, hlength⟩ :=
    @converse_remembers service context conversation (users.take k)
  have htakeLength : (users.take k).length = k := List.length_take_of_le (Nat.le_of_lt hk)
  have hbefore := @converse_extends service context conversation (users.take k) (users.drop k)
  have hupto := @converse_extends service context conversation (users.take (k + 1))
    (users.drop (k + 1))
  rw [List.take_append_drop] at hbefore hupto
  have htaken := List.prefix_iff_eq_take.1 hbefore
  rw [hlength, htakeLength] at htaken
  rw [← htaken, htake]
  rw [htake, converse_append] at hupto
  obtain ⟨rest, hrest⟩ := hupto
  rw [← hrest]
  change ((_ ++ [_]) ++ rest)[k]? = _
  rw [List.append_assoc, List.getElem?_append_right (by rw [hlength, htakeLength]), hlength,
    htakeLength, Nat.sub_self, List.singleton_append, List.getElem?_cons_zero, hmessages, hturns,
    lastTurns_eq_self (by rw [htakeLength]; omega),
    lastTurns_eq_self (by rw [List.length_map, hlength, htakeLength]; omega)]

/-- A call of a conversation is answered in the discourse of its key. -/
theorem withTurns_discourse {key : Key} (h : keyOf context = some key)
    (turns : List (List String)) :
    (context.withTurns key.conversation_id turns).discourse = some (key.discourse turns) := by
  unfold keyOf at h
  split at h
  case h_2 => cases h
  case h_1 hcaller =>
      split at h
      case isTrue => cases h
      case isFalse =>
          cases h
          simp only [AgentRequestContext.withTurns, Key.discourse, hcaller]

/-- What the service records under the lock of a conversation is a turn of the session that its
state remembers. -/
theorem record_turn (conversations : Service) (key : Key) (text : String) (state : Nat)
    (session : Session) (hmessages : (conversations.objects state).messages = session.messages)
    (hturns : (conversations.objects state).turns = session.turns) :
    let outcome := service.tryAnswer ((conversations.objects state).messages ++ [text])
      (context.withTurns conversation (conversations.objects state).turns)
    let recorded := (conversations.record ⟨key, text, outcome.toOption⟩ state
      ((conversations.objects state).messages ++ [text])).objects state
    recorded.messages = (session.turn service context conversation text).messages ∧
      recorded.turns = (session.turn service context conversation text).turns := by
  intro outcome recorded
  have hfocus : Turn.focus ⟨key, text, outcome.toOption⟩ = outcomeFocus outcome := by
    cases outcome <;> rfl
  simp only [recorded, Service.record, Service.release, Service.setObject,
    Function.update_self, Session.turn, hfocus, ← hmessages, ← hturns]
  trivial

/-! ### What a turn reads of the turns before it -/

theorem mem_discourseOffsets {request : SemanticFactRequest} {offset : Nat} :
    offset ∈ discourseOffsets request ↔ ∃ reference ∈ request.references,
      reference.kind = .discourse ∧ reference.turn_offset = some offset := by
  simp only [discourseOffsets, List.mem_insertionSort, List.mem_dedup, List.mem_filterMap,
    List.mem_filter, decide_eq_true_eq, and_assoc]

theorem discourseOffsets_pos {request : SemanticFactRequest} {offset : Nat}
    (h : offset ∈ discourseOffsets request) : 1 ≤ offset := by
  obtain ⟨reference, -, hkind, hoffset⟩ := mem_discourseOffsets.1 h
  obtain ⟨offset', hoffset', hpos, -⟩ := SemanticReference.offset_of_discourse hkind
  rw [hoffset] at hoffset'
  rwa [Option.some.inj hoffset']

theorem readsAlike_of_offsets {request : SemanticFactRequest} {turns turns' : List (List String)}
    (h : ∀ offset ∈ discourseOffsets request,
      antecedentOf turns offset = antecedentOf turns' offset) :
    request.ReadsAlike turns turns' := by
  intro reference hreference offset hoffset
  by_cases hkind : reference.kind = .discourse
  · exact h offset (mem_discourseOffsets.2 ⟨reference, hreference, hkind, hoffset⟩)
  · rw [reference.offset_none hkind] at hoffset
    cases hoffset

theorem answerRequest_withTurns {request : SemanticFactRequest} {turns turns' : List (List String)}
    (conversation conversation' : String) (h : request.ReadsAlike turns turns') :
    service.answerRequest request (context.withTurns conversation turns) =
      service.answerRequest request (context.withTurns conversation' turns') := by
  unfold SemanticFactService.answerRequest
  rw [@HouseholdFactEngine.execute_withTurns service.engine context conversation conversation'
    turns turns' request h]

/-- The name of a conversation is not read. -/
theorem tryAnswer_conversation (messages : List String) (turns : List (List String))
    (conversation conversation' : String) :
    service.tryAnswer messages (context.withTurns conversation turns) =
      service.tryAnswer messages (context.withTurns conversation' turns) := by
  have hanswer (request : SemanticFactRequest) := @answerRequest_withTurns service context request
    turns turns conversation conversation' fun _ _ _ _ => rfl
  unfold SemanticFactService.tryAnswer
  simp only [hanswer]
  rfl

theorem converse_conversation (users : List String) (conversation conversation' : String) :
    converse service context conversation users = converse service context conversation' users := by
  have hturn : Session.turn service context conversation =
      Session.turn service context conversation' := by
    funext session text
    unfold Session.turn
    simp only [tryAnswer_conversation _ _ conversation conversation']
  rw [converse, converse, hturn]

theorem discourseOffsets_safe : discourseOffsets SemanticFactService.safeRequest = [] := by
  decide +kernel

/-- The answer to an executed request carries the request. -/
theorem answerRequest_request {request : SemanticFactRequest} {context : AgentRequestContext}
    {answer : FactAnswer} (h : service.answerRequest request context = .ok answer) :
    answer.request = request := by
  unfold SemanticFactService.answerRequest at h
  split at h
  case isTrue => rw [← Except.ok.inj h]; rfl
  case isFalse =>
      obtain ⟨result, -, h⟩ := Except.bind_eq_ok.1 h
      rw [← Except.ok.inj h]

/-- Either a turn has one answer in every history, and it refers to no turn, or its plan is a
request that is executed. -/
theorem tryAnswer_cases (messages : List String) :
    (∃ answer, (∀ planned, answer = .fact planned → discourseOffsets planned.request = []) ∧
      ∀ turns, service.tryAnswer messages (context.withTurns conversation turns) = .ok answer) ∨
    ∃ request, ∀ turns, service.tryAnswer messages (context.withTurns conversation turns) =
      .fact <$> service.answerRequest request (context.withTurns conversation turns) := by
  have hsafe (status : FactStatus) (planned : FactAnswer)
      (h : TurnAnswer.fact (SemanticFactService.failureAnswer none status) = .fact planned) :
      discourseOffsets planned.request = [] := by
    cases h
    exact discourseOffsets_safe
  cases hplan : service.plan messages context.current_time with
  | failed =>
      refine .inl ⟨_, hsafe .semanticPlanUnsupported, fun turns => ?_⟩
      simp only [SemanticFactService.tryAnswer, AgentRequestContext.withTurns, hplan]
  | multiIntent =>
      refine .inl ⟨_, hsafe .multiIntentUnsupported, fun turns => ?_⟩
      simp only [SemanticFactService.tryAnswer, AgentRequestContext.withTurns, hplan]
  | mutation intent =>
      refine .inl ⟨.mutation intent, fun _ h => (by cases h), fun turns => ?_⟩
      simp only [SemanticFactService.tryAnswer, AgentRequestContext.withTurns, hplan]
  | ordinary =>
      refine .inl ⟨.none, fun _ h => (by cases h), fun turns => ?_⟩
      simp only [SemanticFactService.tryAnswer, AgentRequestContext.withTurns, hplan]
  | fact request? =>
      cases request? with
      | none =>
          refine .inl ⟨_, hsafe .semanticPlanUnsupported, fun turns => ?_⟩
          simp only [SemanticFactService.tryAnswer, AgentRequestContext.withTurns, hplan]
      | some request =>
          refine .inr ⟨request, fun turns => ?_⟩
          simp only [SemanticFactService.tryAnswer, AgentRequestContext.withTurns, hplan]
          split
          case isTrue hinvalid =>
              rw [SemanticFactService.answerRequest, if_pos hinvalid]
              rfl
          case isFalse => rfl

/-- What a turn planned is what it answers in every history: nothing else, when it refers to no
turn, and the execution of its request, when it does. -/
theorem tryAnswer_planned {messages : List String} {turns : List (List String)}
    {answer : TurnAnswer}
    (h : service.tryAnswer messages (context.withTurns conversation turns) = .ok answer)
    (turns' : List (List String)) :
    ((∀ planned, answer = .fact planned → discourseOffsets planned.request = []) →
      service.tryAnswer messages (context.withTurns conversation turns') = .ok answer) ∧
    ∀ planned, answer = .fact planned → discourseOffsets planned.request ≠ [] →
      service.tryAnswer messages (context.withTurns conversation turns') =
        .fact <$> service.answerRequest planned.request (context.withTurns conversation turns') := by
  rcases tryAnswer_cases messages with ⟨same, halone, hsame⟩ | ⟨request, hrequest⟩
  · obtain rfl : same = answer := Except.ok.inj ((hsame turns).symm.trans h)
    exact ⟨fun _ => hsame turns', fun planned hplanned hoffsets =>
      absurd (halone planned hplanned) hoffsets⟩
  · rw [hrequest turns] at h
    obtain ⟨planned, hanswer, rfl⟩ := Except.map_eq_ok.1 h
    have hcarried := answerRequest_request hanswer
    constructor
    · intro hoffsets
      have hnone := hoffsets planned rfl
      rw [hcarried] at hnone
      rw [hrequest turns', ← h, answerRequest_withTurns conversation conversation (readsAlike_of_offsets _)]
      intro offset hoffset
      rw [hnone] at hoffset
      cases hoffset
    · intro planned' hplanned _
      cases hplanned
      rw [hrequest turns', hcarried]

/-- Where no turn left a focus, a turn returns whenever it does in a history that has its
antecedents. -/
theorem tryAnswer_bare {messages : List String} {turns turns' : List (List String)}
    {answer : TurnAnswer} (hbare : HouseholdFactEngine.Bare turns)
    (h : service.tryAnswer messages (context.withTurns conversation turns') = .ok answer) :
    ∃ planned, service.tryAnswer messages (context.withTurns conversation turns) = .ok planned := by
  rcases tryAnswer_cases messages with ⟨same, -, hsame⟩ | ⟨request, hrequest⟩
  · exact ⟨same, hsame turns⟩
  · rw [hrequest] at h ⊢
    by_cases hoffsets : discourseOffsets request = []
    · refine ⟨answer, ?_⟩
      rw [← h, answerRequest_withTurns conversation conversation (readsAlike_of_offsets _)]
      intro offset hoffset
      rw [hoffsets] at hoffset
      cases hoffset
    · obtain ⟨offset, hoffset⟩ := List.exists_mem_of_ne_nil _ hoffsets
      obtain ⟨reference, hreference, hkind, -⟩ := mem_discourseOffsets.1 hoffset
      obtain ⟨answered, hanswered, -⟩ := Except.map_eq_ok.1 h
      unfold SemanticFactService.answerRequest at hanswered ⊢
      split at hanswered
      case isTrue hinvalid => exact ⟨_, by rw [if_pos hinvalid]; rfl⟩
      case isFalse hvalid =>
          obtain ⟨result, hresult, -⟩ := Except.bind_eq_ok.1 hanswered
          obtain ⟨failed, hfailed⟩ := HouseholdFactEngine.execute_bare hbare
            ⟨reference, hreference, hkind⟩ hresult
          exact ⟨_, by rw [if_neg hvalid, hfailed]; rfl⟩

/-! ### The memo of a replay -/

variable (service context conversation) in
/-- The foci that the turns of the conversation leave. -/
def foci (users : List String) : List (List String) :=
  (converse service context conversation users).outcomes.map outcomeFocus

variable (service context conversation) in
/-- The answer to the first `last` messages is that of the conversation. -/
def AnswersTurn (users : List String) (last : Nat) (answer : TurnAnswer) : Prop :=
  (converse service context conversation users).outcomes[last - 1]? = some (.ok answer)

variable (service context conversation) in
/-- The answers to at most `last` messages are those of the conversation. -/
def SoundUpTo (users : List String) (last : Nat) (memo : Memo) : Prop :=
  ∀ k ≤ last, ∀ answer, memo.lookup k = some answer →
    AnswersTurn service context conversation users k answer

variable (service context conversation) in
/-- No turn of the conversation raises. -/
def AllReturn (users : List String) : Prop :=
  ∀ outcome ∈ (converse service context conversation users).outcomes, ∃ answer, outcome = .ok answer

variable (service context conversation) in
/-- A replay of the first `last` messages answers as the conversation does, and returns when the
conversation does. -/
structure Replays (users : List String) (last : Nat) : Prop where
  answers : ∀ memo answer memo', SoundUpTo service context conversation users last memo →
    answerPrefix service context conversation users last memo = .ok (answer, memo') →
      AnswersTurn service context conversation users last answer ∧
      SoundUpTo service context conversation users last memo' ∧
      ∀ k, last < k → memo'.lookup k = memo.lookup k
  returns : AllReturn service context conversation users → ∀ memo,
    SoundUpTo service context conversation users last memo →
      ∃ replayed, answerPrefix service context conversation users last memo = .ok replayed

variable {users : List String}

theorem foci_of_answersTurn {last : Nat} {answer : TurnAnswer}
    (h : AnswersTurn service context conversation users last answer) :
    (foci service context conversation users)[last - 1]? = some (focus answer) := by
  rw [foci, List.getElem?_map, h]
  rfl

theorem SoundUpTo.mono {last last' : Nat} {memo : Memo} (hle : last' ≤ last)
    (h : SoundUpTo service context conversation users last memo) :
    SoundUpTo service context conversation users last' memo :=
  fun k hk => h k (Nat.le_trans hk hle)

/-- A memo that changes only above a bound stays sound below it. -/
theorem SoundUpTo.frame {last : Nat} {memo memo' : Memo}
    (h : SoundUpTo service context conversation users last memo)
    (hframe : ∀ k ≤ last, memo'.lookup k = memo.lookup k) :
    SoundUpTo service context conversation users last memo' := by
  intro k hk answer hanswer
  rw [hframe k hk] at hanswer
  exact h k hk answer hanswer

theorem SoundUpTo.cons {last : Nat} {memo : Memo} {answer : TurnAnswer}
    (h : SoundUpTo service context conversation users (last - 1) memo)
    (hanswer : AnswersTurn service context conversation users last answer) :
    SoundUpTo service context conversation users last ((last, answer) :: memo) := by
  intro k hk found hfound
  rw [List.lookup_cons] at hfound
  split at hfound
  case h_1 heq =>
      rw [beq_iff_eq] at heq
      rw [heq, ← Option.some.inj hfound]
      exact hanswer
  case h_2 hne =>
      have hk' : k ≠ last := by simpa using hne
      exact h k (by omega) found hfound

theorem lookup_cons_ne {memo : Memo} {answer : TurnAnswer} {k last : Nat} (h : k ≠ last) :
    List.lookup k ((last, answer) :: memo) = memo.lookup k := by
  rw [List.lookup_cons, beq_eq_false_iff_ne.2 h]

/-! ### The antecedents of a turn -/

/-- The loop over the offsets fills in the foci of the turns they refer to. -/
theorem antecedents_fill {last : Nat}
    (hreplays : ∀ m, 1 ≤ m → m < last → Replays service context conversation users m)
    (offsets : List Nat) (turns : List (List String)) (hturns : turns.length = last - 1)
    (memo : Memo) (hsound : SoundUpTo service context conversation users (last - 1) memo) :
    (∀ turns' memo',
      antecedents service context conversation users last offsets turns memo = .ok (turns', memo') →
        turns'.length = last - 1 ∧
        SoundUpTo service context conversation users (last - 1) memo' ∧
        (∀ k, last ≤ k → memo'.lookup k = memo.lookup k) ∧
        (∀ i : Nat, turns[i]? = (foci service context conversation users)[i]? →
          turns'[i]? = (foci service context conversation users)[i]?) ∧
        ∀ offset ∈ offsets, 1 ≤ offset → offset < last →
          turns'[last - 1 - offset]? =
            (foci service context conversation users)[last - 1 - offset]?) ∧
    (AllReturn service context conversation users → ∃ filled,
      antecedents service context conversation users last offsets turns memo = .ok filled) := by
  induction offsets generalizing turns memo with
  | nil =>
      rw [antecedents]
      refine ⟨fun turns' memo' h => ?_, fun _ => ⟨_, rfl⟩⟩
      cases h
      exact ⟨hturns, hsound, fun _ _ => rfl, fun _ h => h, fun _ h => (by cases h)⟩
  | cons offset offsets ih =>
      rw [antecedents]
      by_cases hoffset : 1 ≤ offset ∧ offset < last
      case neg =>
        rw [dif_neg hoffset]
        obtain ⟨hfill, hreturn⟩ := ih turns hturns memo hsound
        refine ⟨fun turns' memo' h => ?_, hreturn⟩
        obtain ⟨hlength, hsound', hframe, hkeep, hfilled⟩ := hfill turns' memo' h
        refine ⟨hlength, hsound', hframe, hkeep, fun other hother hpos hbefore => ?_⟩
        rcases List.mem_cons.1 hother with rfl | hother
        · exact absurd ⟨hpos, hbefore⟩ hoffset
        · exact hfilled other hother hpos hbefore
      case pos =>
        rw [dif_pos hoffset]
        have hreplay := hreplays (last - offset) (by omega) (by omega)
        have hbelow := hsound.mono (show last - offset ≤ last - 1 by omega)
        have hstep : ∀ antecedent memo', answerPrefix service context conversation users
            (last - offset) memo = .ok (antecedent, memo') →
            AnswersTurn service context conversation users (last - offset) antecedent ∧
            SoundUpTo service context conversation users (last - 1) memo' ∧
            ∀ k, last ≤ k → memo'.lookup k = memo.lookup k := by
          intro antecedent memo' hanswer
          obtain ⟨hturn, hsound', hframe⟩ := hreplay.answers memo antecedent memo' hbelow hanswer
          refine ⟨hturn, fun k hk answer hk' => ?_, fun k hk => hframe k (by omega)⟩
          by_cases hle : k ≤ last - offset
          · exact hsound' k hle answer hk'
          · rw [hframe k (by omega)] at hk'
            exact hsound k hk answer hk'
        have hset (antecedent : TurnAnswer) :
            (turns.set (last - 1 - offset) (focus antecedent)).length = last - 1 := by
          rw [List.length_set, hturns]
        constructor
        · intro turns' memo' h
          obtain ⟨⟨antecedent, memo₁⟩, hanswer, h⟩ := Except.bind_eq_ok.1 h
          obtain ⟨hturn, hsound₁, hframe₁⟩ := hstep antecedent memo₁ hanswer
          have hfocus := foci_of_answersTurn hturn
          rw [show last - offset - 1 = last - 1 - offset by omega] at hfocus
          have hnow : (turns.set (last - 1 - offset) (focus antecedent))[last - 1 - offset]? =
              (foci service context conversation users)[last - 1 - offset]? := by
            rw [List.getElem?_set_self (by rw [hturns]; omega), hfocus]
          obtain ⟨hlength, hsound', hframe, hkeep, hfilled⟩ :=
            (ih _ (hset antecedent) memo₁ hsound₁).1 turns' memo' h
          refine ⟨hlength, hsound', fun k hk => (hframe k hk).trans (hframe₁ k hk), ?_, ?_⟩
          · intro i hi
            by_cases heq : last - 1 - offset = i
            · exact hkeep i (heq ▸ hnow)
            · exact hkeep i (by rw [List.getElem?_set_ne heq, hi])
          · intro other hother hpos hbefore
            rcases List.mem_cons.1 hother with rfl | hother
            · exact hkeep _ hnow
            · exact hfilled other hother hpos hbefore
        · intro hall
          obtain ⟨⟨antecedent, memo₁⟩, hanswer⟩ := hreplay.returns hall memo hbelow
          obtain ⟨-, hsound₁, -⟩ := hstep antecedent memo₁ hanswer
          obtain ⟨filled, hfilled⟩ := (ih _ (hset antecedent) memo₁ hsound₁).2 hall
          exact ⟨filled, Except.bind_eq_ok.2 ⟨_, hanswer, hfilled⟩⟩

/-! ### The answer of a replay -/

/-- With the foci of its antecedents filled in, a request is answered as in the conversation. -/
theorem answerRequest_filled {last : Nat} {request : SemanticFactRequest}
    {turns : List (List String)} (hshort : last ≤ maxDiscourseTurns + 1)
    (hlength : turns.length = last - 1)
    (hfoci : last - 1 ≤ (foci service context conversation users).length)
    (hfilled : ∀ offset ∈ discourseOffsets request, 1 ≤ offset → offset < last →
      turns[last - 1 - offset]? = (foci service context conversation users)[last - 1 - offset]?) :
    service.answerRequest request (context.withTurns conversation (lastTurns turns)) =
      service.answerRequest request (context.withTurns conversation
        ((foci service context conversation users).take (last - 1))) := by
  rw [lastTurns_eq_self (by rw [hlength]; omega)]
  refine answerRequest_withTurns conversation conversation (readsAlike_of_offsets fun offset hoffset => ?_)
  have hpos := discourseOffsets_pos hoffset
  unfold antecedentOf
  rw [hlength, List.length_take_of_le hfoci]
  split
  case isTrue hle =>
      rw [List.getElem?_take_of_lt (by omega), hfilled offset hoffset hpos (by omega)]
  case isFalse => rfl

/-- **A replay of a prefix.**  The induction is on the number of messages; the memo holds the
answers of the conversation below the turns that are being replayed. -/
theorem replays (hshort : users.length ≤ maxDiscourseTurns + 1) :
    ∀ last, 1 ≤ last → last ≤ users.length → Replays service context conversation users last := by
  intro last
  induction last using Nat.strongRecOn with
  | ind last ih =>
  intro hpos hlast
  have hreplays : ∀ m, 1 ≤ m → m < last → Replays service context conversation users m :=
    fun m hm hlt => ih m hlt hm (by omega)
  have hstateful := @converse_outcome service context conversation users hshort last hpos hlast
  rw [List.map_take, ← foci] at hstateful
  have hfoci : (foci service context conversation users).length = users.length := by
    rw [foci, List.length_map, (@converse_remembers service context conversation users).2.2]
  have hbare := HouseholdFactEngine.bare_replicate (last - 1)
  have hlength : (List.replicate (last - 1) ([] : List String)).length = last - 1 :=
    List.length_replicate
  have hcons (memo : Memo) (answer : TurnAnswer)
      (hsound : SoundUpTo service context conversation users last memo) :
      SoundUpTo service context conversation users (last - 1) ((last, answer) :: memo) :=
    (hsound.mono (Nat.sub_le _ _)).frame fun k hk => lookup_cons_ne (by omega)
  constructor
  · intro memo answer memo' hsound h
    rw [answerPrefix] at h
    cases hmemo : memo.lookup last with
    | some known =>
        rw [hmemo] at h
        cases h
        exact ⟨hsound last (Nat.le_refl _) _ hmemo, hsound, fun _ _ => rfl⟩
    | none =>
        rw [hmemo] at h
        obtain ⟨planned, hplanned, h⟩ := Except.bind_eq_ok.1 h
        obtain ⟨halone, hrequest⟩ := tryAnswer_planned hplanned
          ((foci service context conversation users).take (last - 1))
        have hdone (done : TurnAnswer) (memo₁ : Memo)
            (hdone : AnswersTurn service context conversation users last done)
            (hsound₁ : SoundUpTo service context conversation users (last - 1) memo₁)
            (hframe : ∀ k, last < k → memo₁.lookup k = memo.lookup k) :
            AnswersTurn service context conversation users last done ∧
            SoundUpTo service context conversation users last ((last, done) :: memo₁) ∧
            ∀ k, last < k → List.lookup k ((last, done) :: memo₁) = memo.lookup k :=
          ⟨hdone, hsound₁.cons hdone, fun k hk => by
            rw [lookup_cons_ne (by omega), hframe k hk]⟩
        have hstop (hnone : ∀ fact, planned = .fact fact → discourseOffsets fact.request = []) :=
          hdone planned memo (by rw [AnswersTurn, hstateful, halone hnone])
            (hsound.mono (Nat.sub_le _ _)) fun _ _ => rfl
        cases planned with
        | mutation intent =>
            cases h
            exact hstop fun _ hfact => (by cases hfact)
        | none =>
            cases h
            exact hstop fun _ hfact => (by cases hfact)
        | fact planned =>
            dsimp only at h
            split at h
            case isTrue hnone =>
                cases h
                exact hstop fun _ hfact => (by cases hfact; exact hnone)
            case isFalse hsome =>
                obtain ⟨⟨turns, memo₁⟩, hfill, h⟩ := Except.bind_eq_ok.1 h
                obtain ⟨resolved, hresolved, h⟩ := Except.bind_eq_ok.1 h
                cases h
                obtain ⟨hturns, hsound₁, hframe, -, hfilled⟩ := (antecedents_fill hreplays _ _
                  hlength _ (hcons memo _ hsound)).1 turns memo₁ hfill
                refine hdone _ memo₁ ?_ hsound₁ fun k hk => ?_
                · rw [answerRequest_filled (by omega) hturns (by omega) hfilled] at hresolved
                  rw [AnswersTurn, hstateful, hrequest planned rfl hsome, hresolved]
                  rfl
                · rw [hframe k (by omega), lookup_cons_ne (by omega)]
  · intro hall memo hsound
    rw [answerPrefix]
    cases hmemo : memo.lookup last with
    | some known => exact ⟨_, rfl⟩
    | none =>
        obtain ⟨answer, hanswer⟩ := hall _ (List.mem_of_getElem? hstateful)
        obtain ⟨planned, hplanned⟩ := tryAnswer_bare hbare hanswer
        obtain ⟨-, hrequest⟩ := tryAnswer_planned hplanned
          ((foci service context conversation users).take (last - 1))
        dsimp only
        rw [hplanned]
        cases planned with
        | mutation intent => exact ⟨_, rfl⟩
        | none => exact ⟨_, rfl⟩
        | fact planned =>
            by_cases hsome : discourseOffsets planned.request = []
            case pos => exact ⟨_, if_pos hsome⟩
            case neg =>
                obtain ⟨hturn, hreturn⟩ := antecedents_fill hreplays
                  (discourseOffsets planned.request) _ hlength _ (hcons memo (.fact planned) hsound)
                obtain ⟨⟨turns, memo₁⟩, hfill⟩ := hreturn hall
                obtain ⟨hturns, -, -, -, hfilled⟩ := hturn turns memo₁ hfill
                rw [hrequest planned rfl hsome,
                  ← answerRequest_filled (by omega) hturns (by omega) hfilled] at hanswer
                obtain ⟨resolved, hresolved, -⟩ := Except.map_eq_ok.1 hanswer
                exact ⟨_, (if_neg hsome).trans (Except.bind_eq_ok.2 ⟨_, hfill,
                  Except.bind_eq_ok.2 ⟨_, hresolved, rfl⟩⟩)⟩

/-- **A stateless request agrees with a conversation.**  Whatever a request without a trusted
conversation answers is what a conversation of its last messages, with its state, answers last;
and it answers whenever no turn of that conversation raises. -/
theorem stateless_agrees (service : SemanticFactService) (context : AgentRequestContext)
    (fresh conversation : String) (users : List String) (huser : users ≠ []) :
    (∀ answer, stateless service context fresh users = .ok answer →
      (converse service context conversation
        (users.drop (users.length - (maxDiscourseTurns + 1)))).outcomes.getLast? =
          some (.ok answer)) ∧
    (AllReturn service context conversation
        (users.drop (users.length - (maxDiscourseTurns + 1))) →
      ∃ answer, stateless service context fresh users = .ok answer) := by
  have hpos := List.length_pos_iff.2 huser
  have hrecent := List.length_drop (i := users.length - (maxDiscourseTurns + 1)) (l := users)
  unfold stateless replay AllReturn
  generalize users.drop (users.length - (maxDiscourseTurns + 1)) = recent at hrecent
  rw [converse_conversation recent conversation fresh]
  obtain ⟨hanswers, hreturns⟩ := @replays service context fresh recent (by omega)
    recent.length (by omega) (Nat.le_refl _)
  have hempty : SoundUpTo service context fresh recent recent.length [] :=
    fun _ _ _ h => (by cases h)
  constructor
  · intro answer h
    obtain ⟨⟨found, memo⟩, hfound, rfl⟩ := Except.map_eq_ok.1 h
    obtain ⟨hturn, -, -⟩ := hanswers [] found memo hempty hfound
    rw [AnswersTurn, ← (@converse_remembers service context fresh recent).2.2,
      ← List.getLast?_eq_getElem?] at hturn
    exact hturn
  · intro hall
    obtain ⟨found, hfound⟩ := hreturns hall [] hempty
    exact ⟨found.1, by rw [hfound]; rfl⟩

end

/-! ### A follow-up question -/

/-- "Which women live here?" -/
def whichWomen : SemanticFactRequest where
  operation := .select
  subject := HouseholdFactEngine.residents
  filters := [HouseholdFactEngine.isFemale]
  exclude_bound := noExclude_bound
  amount_bound := noAmount_bound

/-- "When was she born?", two turns later. -/
def herBirthday : SemanticFactRequest where
  operation := .select
  subject := ⟨{ kind := .discourse, entity_type := some "person", turn_offset := some 2 },
    by decide +kernel⟩
  property := some "birth_date"
  exclude_bound := noExclude_bound
  amount_bound := noAmount_bound

/-- A planner of three turns. -/
def residenceService : SemanticFactService where
  engine := HouseholdFactEngine.residenceEngine
  plan messages _ := match messages with
    | [_] => .fact (some whichWomen)
    | [_, _] => .ordinary
    | _ => .fact (some herBirthday)

/-- Which women live here?  Thanks.  When was she born? -/
def birthdayTurns : List String := ["Which women live here?", "Thanks.", "When was she born?"]

theorem birthday_replayed : ∃ answer,
    stateless residenceService HouseholdFactEngine.homeRequest "replay" birthdayTurns =
      .ok answer ∧ focus answer = ["person:ada"] := by
  have hfoci : (converse residenceService HouseholdFactEngine.homeRequest "kitchen"
      birthdayTurns).outcomes.map (fun outcome => outcome.toOption.map focus) =
      [some ["person:ada"], some [], some ["person:ada"]] := by
    decide +kernel
  obtain ⟨hanswers, hreturns⟩ := stateless_agrees residenceService
    HouseholdFactEngine.homeRequest "replay" "kitchen" birthdayTurns (by decide)
  obtain ⟨answer, hanswer⟩ := hreturns fun outcome houtcome => by
    have hmem := List.mem_map_of_mem (f := fun outcome => outcome.toOption.map focus) houtcome
    change _ ∈ (converse residenceService HouseholdFactEngine.homeRequest "kitchen"
      birthdayTurns).outcomes.map _ at hmem
    rw [hfoci] at hmem
    cases outcome with
    | ok answer => exact ⟨answer, rfl⟩
    | error error => simp [Except.toOption] at hmem
  refine ⟨answer, hanswer, ?_⟩
  have hlast := congrArg List.getLast? hfoci
  change (List.map _ (converse residenceService HouseholdFactEngine.homeRequest "kitchen"
    (birthdayTurns.drop (birthdayTurns.length - (maxDiscourseTurns + 1)))).outcomes).getLast? = _
    at hlast
  rw [List.getLast?_map, hanswers answer hanswer] at hlast
  exact Option.some.inj (Option.some.inj hlast)

end SemanticConversation
end HomeCortex
