/-
# Tool results and their calls

What `_openai_messages` makes of the rounds of a run.  Every tool message gets the id of the
call at its own place, whatever came before: the queue is rebuilt by each reply with calls and
emptied by its results (`convertMessages_rounds`).  The ids of one reply are different unless
the provider took the name that another call of the reply is given for its place
(`sent_paired_iff`).
-/

import HomeCortex.Providers.OpenaiMessages
import HomeCortex.Runtime.ToolLoop

namespace HomeCortex
namespace Runtime

open Display Providers

/-! ### Names by place -/

section Filling

variable {α : Type} {gen : Nat → α}

theorem mem_filled (xs : List (Option α)) (n : Nat) (a : α) :
    a ∈ (xs.zipIdx n).map (fun entry => entry.1.getD (gen entry.2)) ↔
      a ∈ xs.filterMap id ∨ ∃ i, (none, i) ∈ xs.zipIdx n ∧ gen i = a := by
  induction xs generalizing n with
  | nil => simp
  | cons x xs ih =>
      rw [List.zipIdx_cons, List.map_cons, List.mem_cons, ih]
      cases x with
      | some b => simp [or_assoc]
      | none =>
          simp only [Option.getD_none, List.filterMap_cons, id_eq, List.mem_cons, Prod.mk.injEq,
            true_and]
          constructor
          · rintro (rfl | h | ⟨i, hi, rfl⟩)
            · exact .inr ⟨n, .inl rfl, rfl⟩
            · exact .inl h
            · exact .inr ⟨i, .inr hi, rfl⟩
          · rintro (h | ⟨i, rfl | hi, rfl⟩)
            · exact .inr (.inl h)
            · exact .inl rfl
            · exact .inr (.inr ⟨i, hi, rfl⟩)

/-- **Values with names for the missing ones** are different exactly when the given values are
and none of them is the name of a missing one. -/
theorem nodup_filled (hgen : Function.Injective gen) (xs : List (Option α)) (n : Nat) :
    ((xs.zipIdx n).map fun entry => entry.1.getD (gen entry.2)).Nodup ↔
      (xs.filterMap id).Nodup ∧ ∀ i, (none, i) ∈ xs.zipIdx n → gen i ∉ xs.filterMap id := by
  induction xs generalizing n with
  | nil => simp
  | cons x xs ih =>
      rw [List.zipIdx_cons, List.map_cons, List.nodup_cons, mem_filled, ih]
      cases x with
      | some b =>
          simp only [Option.getD_some, List.filterMap_cons, id_eq, List.nodup_cons, List.mem_cons,
            Prod.mk.injEq, reduceCtorEq, false_and, false_or, not_or, not_exists, not_and]
          constructor
          · rintro ⟨⟨hb, hother⟩, hnodup, hfresh⟩
            exact ⟨⟨hb, hnodup⟩, fun i hi => ⟨hother i hi, hfresh i hi⟩⟩
          · rintro ⟨⟨hb, hnodup⟩, hfresh⟩
            exact ⟨⟨hb, fun i hi => (hfresh i hi).1⟩, hnodup, fun i hi => (hfresh i hi).2⟩
      | none =>
          simp only [Option.getD_none, List.filterMap_cons, id_eq, List.mem_cons, Prod.mk.injEq,
            true_and, not_or, not_exists, not_and]
          constructor
          · rintro ⟨⟨hn, -⟩, hnodup, hfresh⟩
            exact ⟨hnodup, fun i hi => hi.elim (fun h => h ▸ hn) (hfresh i)⟩
          · rintro ⟨hnodup, hfresh⟩
            refine ⟨⟨hfresh n (.inl rfl), fun i hi h => ?_⟩, hnodup, fun i hi => hfresh i (.inr hi)⟩
            -- the places after `n` are greater
            have hle := (List.mem_zipIdx hi).1
            have heq := hgen h
            omega

end Filling

section Zips

variable {α β γ : Type} {xs : List α} {ys : List β}

theorem zipWith_fst (f : α → γ) (h : xs.length ≤ ys.length) :
    List.zipWith (fun x _ => f x) xs ys = xs.map f := by
  rw [← List.map_uncurry_zip_eq_zipWith]
  change (xs.zip ys).map (f ∘ Prod.fst) = _
  rw [← List.map_map, List.map_fst_zip h]

theorem zipWith_snd (f : β → γ) (h : ys.length ≤ xs.length) :
    List.zipWith (fun _ y => f y) xs ys = ys.map f := by
  rw [← List.map_uncurry_zip_eq_zipWith]
  change (xs.zip ys).map (f ∘ Prod.snd) = _
  rw [← List.map_map, List.map_snd_zip h]

end Zips

theorem generatedId_injective : Function.Injective generatedId := fun _ _ h =>
  Nat.repr_inj.1 ((String.append_right_inj _).1 h)

/-! ### Ids -/

/-- The id that the provider gave, unless it is empty. -/
def ToolCall.given? (call : ToolCall) : Option String := call.id.filter (· ≠ "")

/-- The ids that the provider gave in a round. -/
def Round.given (round : Round) : List String :=
  round.reply.tool_calls.filterMap ToolCall.given?

/-- The ids of the calls of a round, those that were generated included. -/
def Round.ids (round : Round) : List String :=
  round.reply.tool_calls.zipIdx.map fun entry => entry.1.given?.getD (generatedId entry.2)

/-- The provider's ids are different, and one of them is the name by which another call of
the reply, without an id, goes for its place. -/
def Round.Clashing (round : Round) : Prop :=
  round.given.Nodup ∧ ∃ place call, round.reply.tool_calls[place]? = some call ∧
    call.given? = none ∧ generatedId place ∈ round.given

variable {round : Round}

theorem Round.length_ids (round : Round) : round.ids.length = round.reply.tool_calls.length := by
  rw [Round.ids, List.length_map, List.length_zipIdx]

theorem Round.nodup_ids (hgiven : round.given.Nodup) :
    round.ids.Nodup ↔ ¬round.Clashing := by
  have hids : round.ids = ((round.reply.tool_calls.map ToolCall.given?).zipIdx 0).map
      fun entry => entry.1.getD (generatedId entry.2) := by
    rw [Round.ids, List.zipIdx_map, List.map_map]
    rfl
  have hnames : (round.reply.tool_calls.map ToolCall.given?).filterMap id = round.given := by
    rw [List.filterMap_map]
    rfl
  rw [hids, nodup_filled generatedId_injective, hnames]
  constructor
  · rintro ⟨-, hfresh⟩ ⟨-, place, call, hcall, hnone, hmem⟩
    refine hfresh place (List.mem_zipIdx_iff_getElem?.2 ?_) hmem
    rw [List.getElem?_map, hcall, Option.map_some, hnone]
  · intro hclash
    refine ⟨hgiven, fun place hplace hmem => hclash ⟨hgiven, place, ?_⟩⟩
    have hget := List.mem_zipIdx_iff_getElem?.1 hplace
    rw [List.getElem?_map, Option.map_eq_some_iff] at hget
    obtain ⟨call, hcall, hnone⟩ := hget
    exact ⟨call, hcall, hnone, hmem⟩

/-- No call of a round has an empty id. -/
theorem Round.ids_ne (round : Round) : ∀ id ∈ round.ids, id ≠ "" := by
  intro id hid
  obtain ⟨⟨call, place⟩, -, rfl⟩ := List.mem_map.1 hid
  dsimp only
  cases hgiven : call.given? with
  | none =>
      rw [Option.getD_none, generatedId]
      intro h
      have hlist := congrArg String.toList h
      rw [String.toList_append] at hlist
      simp at hlist
  | some given =>
      obtain ⟨-, hne⟩ := Option.filter_eq_some_iff.1 hgiven
      exact of_decide_eq_true hne

/-! ### Rounds that are sent -/

section Sent

variable (floats : FloatFormat)

theorem messageRole_modelDump (reply : Reply) :
    messageRole reply.message.modelDump = "assistant" := by
  unfold messageRole ChatMessage.modelDump Reply.message
  rfl

theorem rawCalls_modelDump {reply : Reply} (h : reply.tool_calls ≠ []) :
    rawCalls reply.message.modelDump = reply.tool_calls.map fun call => .obj call.modelDump := by
  have hcalls : reply.message.tool_calls.isEmpty = false := by
    rw [Reply.message, List.isEmpty_map]
    simpa using h
  rw [rawCalls, if_pos (messageRole_modelDump reply), ChatMessage.modelDump, hcalls]
  cases hcontent : reply.message.content with
  | none => rfl
  | some content => rfl

theorem callId_modelDump (call : ToolCall) (place : Nat) :
    callId call.modelDump place = call.given?.getD (generatedId place) := by
  unfold callId ToolCall.given? ToolCall.modelDump
  cases call.id with
  | none => rfl
  | some id =>
      by_cases hid : id = ""
      · subst hid
        rfl
      · have htruthy : (Json.str id).truthy = true := bne_iff_ne.2 hid
        have hfilter : (some id).filter (fun id => decide (id ≠ "")) = some id := by
          rw [Option.filter_some, if_pos (decide_eq_true hid)]
        change (if (Json.str id).truthy then id else _) = _
        rw [if_pos htruthy, hfilter]
        rfl

/-- The call that is sent for a call of a reply. -/
def sentCall (call : ToolCall) (id : String) : Json := .obj [
  ("id", .str id), ("type", .str "function"), ("function", .obj [
    ("name", .str call.name), ("arguments", .str (argumentsText floats (.obj call.arguments)))])]

theorem openaiCall_modelDump (call : ToolCall) (place : Nat) :
    openaiCall floats place (.obj call.modelDump) =
      some (call.given?.getD (generatedId place),
        sentCall floats call (call.given?.getD (generatedId place))) := by
  have hfunction : Fields.getD call.modelDump "function"
      = .obj [("name", .str call.name), ("arguments", .obj call.arguments)] := by
    unfold ToolCall.modelDump
    cases call.id with
    | none => rfl
    | some id => rfl
  unfold openaiCall
  change (Json.asObject? (Fields.getD call.modelDump "function")).bind _ = _
  rw [hfunction, callId_modelDump]
  change some (_, Json.obj [_, _, ("function", .obj [("name", .str (textOr (.str call.name))), _])])
    = _
  rw [textOr_str]
  rfl

/-- The calls of a round, as they are sent. -/
def Round.sentCalls (round : Round) : List Json :=
  List.zipWith (sentCall floats) round.reply.tool_calls round.ids

theorem openaiCalls_round (round : Round) :
    openaiCalls floats (round.reply.tool_calls.map fun call => .obj call.modelDump) =
      round.ids.zip (round.sentCalls floats) := by
  unfold openaiCalls Round.sentCalls Round.ids
  generalize 0 = place
  induction round.reply.tool_calls generalizing place with
  | nil => rfl
  | cons call calls ih =>
      rw [List.map_cons, List.zipIdx_cons, List.filterMap_cons, openaiCall_modelDump,
        List.zipIdx_cons, List.map_cons, List.zipWith_cons_cons, List.zip_cons_cons, ih]

/-- What a round is sent as. -/
def Round.emitted (round : Round) : List Fields :=
  callingItem round.reply.message.modelDump (round.ids.zip (round.sentCalls floats)) ::
    List.zipWith toolItem (List.zipWith toolRecord round.reply.tool_calls round.results) round.ids

theorem length_sentCalls (round : Round) :
    (round.sentCalls floats).length = round.reply.tool_calls.length := by
  rw [Round.sentCalls, List.length_zipWith, round.length_ids, Nat.min_self]

theorem exists_toolRecord {calls : List ToolCall} {results : List String} {answer : Fields}
    (h : answer ∈ List.zipWith toolRecord calls results) :
    ∃ call content, answer = toolRecord call content := by
  rw [← List.map_uncurry_zip_eq_zipWith] at h
  obtain ⟨entry, -, rfl⟩ := List.mem_map.1 h
  exact ⟨entry.1, entry.2, rfl⟩

/-- **What a run sends**: each round by itself, whatever came before. -/
theorem convertMessages_rounds {rounds : List Round} (h : ∀ round ∈ rounds, round.Bounded) :
    ∀ (index : Nat) (pending : List String),
      convertMessages floats index pending (rounds.flatMap Round.messages) =
        (rounds.map (Round.emitted floats)).flatten := by
  induction rounds with
  | nil => exact fun index pending => rfl
  | cons round rounds ih =>
      intro index pending
      have hcalls : round.reply.tool_calls ≠ [] :=
        List.length_pos_iff.1 (h round List.mem_cons_self).1
      have hraw : (rawCalls round.reply.message.modelDump).isEmpty = false := by
        rw [rawCalls_modelDump hcalls, List.isEmpty_map]
        simpa using hcalls
      have hlength : round.ids.length =
          (List.zipWith toolRecord round.reply.tool_calls round.results).length := by
        rw [round.length_ids, List.length_zipWith, round.answered, Nat.min_self]
      rw [List.flatMap_cons, List.map_cons, List.flatten_cons, Round.messages, List.cons_append,
        convertMessages, messageRole_modelDump, if_neg (by decide), if_neg (by rw [hraw]; decide)]
      dsimp only
      rw [rawCalls_modelDump hcalls, openaiCalls_round, List.map_fst_zip, Round.emitted,
        List.cons_append, convertMessages_tools floats _ _ hlength round.ids_ne,
        ih fun other hother => h other (List.mem_cons_of_mem _ hother)]
      · intro answer hanswer
        obtain ⟨call, content, rfl⟩ := exists_toolRecord hanswer
        rfl
      · intro answer hanswer
        obtain ⟨call, content, rfl⟩ := exists_toolRecord hanswer
        rfl
      · rw [length_sentCalls, round.length_ids]

/-! ### Pairing -/

/-- The `id` of each call of an emitted message. -/
def callIds (item : Fields) : List Json :=
  (sequenceItems (item.getD "tool_calls")).map fun call => Fields.getD (call.asObject?.getD []) "id"

/-- The function of each call of an emitted message. -/
def callNames (item : Fields) : List Json :=
  (sequenceItems (item.getD "tool_calls")).map fun call =>
    Fields.getD ((Fields.getD (call.asObject?.getD []) "function").asObject?.getD []) "name"

/-- What a round is sent as keeps every result at its call: the message with the calls, in
order, then one tool message for each of them with its id and its result.  The ids are
different when the provider's are. -/
def Paired (round : Round) (messages : List Fields) : Prop :=
  ∃ item answers, messages = item :: answers ∧ messageRole item = "assistant" ∧
    callNames item = round.reply.tool_calls.map (fun call => .str call.name) ∧
    (∀ answer ∈ answers, messageRole answer = "tool") ∧
    answers.map (fun answer => answer.getD "content") = round.results.map .str ∧
    answers.map (fun answer => answer.getD "tool_call_id") = callIds item ∧
    (round.given.Nodup → (callIds item).Nodup)

/-- What is read off the calls of an emitted round. -/
theorem map_sentCalls {f : Json → Json} {g : ToolCall → String → Json}
    (h : ∀ call id, f (sentCall floats call id) = g call id) (round : Round) (message : Fields) :
    (sequenceItems (Fields.getD (callingItem message (round.ids.zip (round.sentCalls floats)))
      "tool_calls")).map f = List.zipWith g round.reply.tool_calls round.ids := by
  change ((List.map Prod.snd (round.ids.zip (round.sentCalls floats))).map f) = _
  rw [List.map_snd_zip (by rw [length_sentCalls, round.length_ids]), Round.sentCalls,
    List.map_zipWith]
  exact congrArg (fun k => List.zipWith k _ _) (funext fun call => funext fun id => h call id)

theorem callIds_emitted (round : Round) (message : Fields) :
    callIds (callingItem message (round.ids.zip (round.sentCalls floats))) =
      round.ids.map .str := by
  rw [callIds, map_sentCalls floats (g := fun _ id => Json.str id) (fun _ _ => rfl),
    zipWith_snd _ round.length_ids.le]

theorem callNames_emitted (round : Round) (message : Fields) :
    callNames (callingItem message (round.ids.zip (round.sentCalls floats))) =
      round.reply.tool_calls.map fun call => .str call.name := by
  rw [callNames, map_sentCalls floats (g := fun call _ => Json.str call.name) (fun _ _ => rfl),
    zipWith_fst _ round.length_ids.ge]

/-- The messages that answer the calls of a round. -/
theorem answers_emitted (round : Round) :
    let answers := List.zipWith toolItem
      (List.zipWith toolRecord round.reply.tool_calls round.results) round.ids
    (∀ answer ∈ answers, messageRole answer = "tool") ∧
      answers.map (fun answer => answer.getD "content") = round.results.map .str ∧
      answers.map (fun answer => answer.getD "tool_call_id") = round.ids.map .str := by
  have hlength : (List.zipWith toolRecord round.reply.tool_calls round.results).length
      = round.ids.length := by
    rw [round.length_ids, List.length_zipWith, round.answered, Nat.min_self]
  refine ⟨fun answer hanswer => ?_, ?_, ?_⟩
  · rw [← List.map_uncurry_zip_eq_zipWith] at hanswer
    obtain ⟨entry, -, rfl⟩ := List.mem_map.1 hanswer
    rfl
  · rw [List.map_zipWith]
    change List.zipWith (fun record _ => Json.str (textOr (Fields.getD record "content"))) _ _ = _
    rw [zipWith_fst _ hlength.le, List.map_zipWith]
    change List.zipWith (fun _ content => Json.str (textOr (.str content))) _ _ = _
    simp only [textOr_str]
    exact zipWith_snd _ round.answered.le
  · rw [List.map_zipWith]
    change List.zipWith (fun _ id => Json.str id) _ _ = _
    exact zipWith_snd _ hlength.ge

/-- A round is sent with its results at its calls exactly when its ids do not clash. -/
theorem paired_emitted (round : Round) :
    Paired round (round.emitted floats) ↔ ¬round.Clashing := by
  have hnodup : (round.ids.map Json.str).Nodup ↔ round.ids.Nodup :=
    List.nodup_map_iff fun a b h => Json.str.inj h
  constructor
  · rintro ⟨item, answers, hemitted, -, -, -, -, -, hdistinct⟩ hclash
    obtain ⟨rfl, -⟩ := List.cons.inj hemitted
    rw [callIds_emitted, hnodup] at hdistinct
    exact (Round.nodup_ids hclash.1).1 (hdistinct hclash.1) hclash
  · intro hclash
    obtain ⟨hrole, hcontent, hid⟩ := answers_emitted round
    refine ⟨_, _, rfl, messageRole_modelDump round.reply, callNames_emitted floats round _, hrole,
      hcontent, ?_, fun hgiven => ?_⟩
    · rw [callIds_emitted, hid]
    · rw [callIds_emitted, hnodup]
      exact (Round.nodup_ids hgiven).2 hclash

/-- What is sent for a conversation that ends in rounds. -/
theorem openaiMessages_rounds (given : List Fields) {rounds : List Round}
    (h : ∀ round ∈ rounds, round.Bounded) :
    openaiMessages floats (given ++ rounds.flatMap Round.messages) =
      openaiMessages floats given ++ (rounds.map (Round.emitted floats)).flatten := by
  rw [openaiMessages, convertMessages_append, convertMessages_rounds floats h]
  rfl

/-- The messages of a round that is paired are as many as those it is sent as. -/
theorem Paired.length {messages : List Fields} (h : Paired round messages) :
    messages.length = (round.emitted floats).length := by
  obtain ⟨item, answers, rfl, -, -, -, hcontent, -, -⟩ := h
  have hanswers := congrArg List.length hcontent
  rw [List.length_map, List.length_map] at hanswers
  rw [Round.emitted, List.length_cons, List.length_cons, List.length_zipWith, List.length_zipWith,
    round.length_ids, round.answered, Nat.min_self, Nat.min_self, hanswers, round.answered]

/-- **The rounds of a conversation are sent paired exactly when none has clashing ids.** -/
theorem paired_rounds_iff (given : List Fields) {rounds : List Round}
    (h : ∀ round ∈ rounds, round.Bounded) :
    (∃ emitted : List (List Fields),
        openaiMessages floats (given ++ rounds.flatMap Round.messages) =
          openaiMessages floats given ++ emitted.flatten ∧ List.Forall₂ Paired rounds emitted) ↔
      ∀ round ∈ rounds, ¬round.Clashing := by
  rw [openaiMessages_rounds floats given h]
  constructor
  · rintro ⟨emitted, hemitted, hpaired⟩
    -- the rounds' lengths tell where each one is cut off
    have heq : rounds.map (Round.emitted floats) = emitted := by
      refine List.eq_iff_flatten_eq.2 ⟨List.append_cancel_left hemitted, ?_⟩
      rw [List.map_map]
      exact (List.map_eq_of_forall₂ hpaired fun round messages hround =>
        hround.length floats).symm
    rw [← heq, List.forall₂_map_right_iff, List.forall₂_same] at hpaired
    exact fun round hround => (paired_emitted floats round).1 (hpaired round hround)
  · intro hclash
    refine ⟨_, rfl, List.forall₂_map_right_iff.2 (List.forall₂_same.2 fun round hround => ?_)⟩
    exact (paired_emitted floats round).2 (hclash round hround)

end Sent

/-- A reply with two calls. -/
def twoCalls (first second : Option String) : Reply where
  content := some ""
  tool_calls := [⟨first, "calculate", []⟩, ⟨second, "get_current_date", []⟩]

/-- The provider asks for two tools at once; both succeed. -/
def twoSurroundings (first second : Option String) : Surroundings where
  answer step _ := if step = 1 then some (.response (twoCalls first second)) else
    some (.response ⟨some "Done.", []⟩)
  dispatch _ _ _ := some [("ok", .bool true)]

/-- The default limits. -/
def defaultLimits : LoopLimits where
  max_tool_records := 25
  max_tool_result_bytes := 16384
  records_pos := by decide
  bytes_min := by decide
  max_steps := 4
  max_tool_calls_per_step := 4
  calls_bounded := by decide

/-- The first message. -/
def question : List Fields := [[("role", .str "user"), ("content", .str "What is due?")]]

/-- What a tool's success is serialized to. -/
def success (tool_name : String) : String :=
  serializeToolResult asciiFolding plainFloats defaultLimits.toToolLimits tool_name
    [("ok", .bool true)] "en"

/-- The round of two calls. -/
def twoRound (first second : Option String) : Round where
  reply := twoCalls first second
  results := [success "calculate", success "get_current_date"]
  answered := rfl

theorem twoRound_bounded (first second : Option String) :
    ∀ round ∈ [twoRound first second], round.Bounded := by
  intro round hround
  obtain rfl := List.mem_singleton.1 hround
  exact ⟨Nat.le_add_left 1 1, Nat.le_add_left 2 2⟩

theorem twoRound_sent (first second : Option String) :
    question ++ [twoRound first second].flatMap Round.messages ∈
      sent asciiFolding plainFloats defaultLimits "en" (twoSurroundings first second) question :=
  List.mem_cons_of_mem _ List.mem_cons_self

end Runtime
end HomeCortex
