/-
# What holds of the conversation state in every interleaving

The invariant of `SemanticConversation`, step by step: the users counter of a
stored state counts the calls that hold its object, so a held state is never
evicted; its lock counts the call that runs under it; and its messages and turns
are the texts and foci of the last turns recorded under its key.
-/

import HomeCortex.Semantic.Conversation

namespace HomeCortex
namespace SemanticConversation

variable {service service' : Service} {maximum : Nat}

/-! ### The last eight turns -/

theorem lastTurns_suffix {α : Type} (xs : List α) : lastTurns xs <:+ xs := List.drop_suffix _ _

theorem lastTurns_length {α : Type} (xs : List α) : (lastTurns xs).length ≤ 8 := by
  rw [lastTurns, List.length_drop, maxDiscourseTurns]
  omega

theorem lastTurns_map {α β : Type} (f : α → β) (xs : List α) :
    lastTurns (xs.map f) = (lastTurns xs).map f := by
  rw [lastTurns, lastTurns, List.length_map, List.map_drop]

/-- The turns recorded under a key, oldest first. -/
def turnsOf (key : Key) (recorded : List Turn) : List Turn :=
  recorded.filter fun turn => turn.key = key

/-- The state holds the texts and the foci of the last turns of its key. -/
def Remembers (recorded : List Turn) (key : Key) (messages : List String)
    (turns : List (List String)) : Prop :=
  ∃ recent, recent <:+ turnsOf key recorded ∧ recent.length ≤ 8 ∧
    messages = recent.map Turn.text ∧ turns = recent.map Turn.focus

theorem Remembers.nil (recorded : List Turn) (key : Key) : Remembers recorded key [] [] :=
  ⟨[], List.nil_suffix, Nat.zero_le _, rfl, rfl⟩

/-- A turn of its own key moves the window of the last turns on. -/
theorem Remembers.record {recorded : List Turn} {messages : List String}
    {turns : List (List String)} {turn : Turn}
    (h : Remembers recorded turn.key messages turns) :
    Remembers (recorded ++ [turn]) turn.key (lastTurns (messages ++ [turn.text]))
      (lastTurns (turns ++ [turn.focus])) := by
  obtain ⟨recent, hsuffix, -, rfl, rfl⟩ := h
  refine ⟨lastTurns (recent ++ [turn]), ?_, lastTurns_length _, ?_, ?_⟩
  · have hstep : recent ++ [turn] <:+ turnsOf turn.key (recorded ++ [turn]) := by
      obtain ⟨earlier, heq⟩ := hsuffix
      refine ⟨earlier, ?_⟩
      rw [turnsOf, List.filter_append, ← turnsOf, ← heq]
      simp
    exact (lastTurns_suffix _).trans hstep
  · rw [← lastTurns_map, List.map_append, List.map_singleton]
  · rw [← lastTurns_map, List.map_append, List.map_singleton]

/-- Turns of other keys do not show. -/
theorem Remembers.of_ne {recorded : List Turn} {key : Key} {messages : List String}
    {turns : List (List String)} {turn : Turn} (h : Remembers recorded key messages turns)
    (hne : turn.key ≠ key) : Remembers (recorded ++ [turn]) key messages turns := by
  have heq : turnsOf key (recorded ++ [turn]) = turnsOf key recorded := by
    simp [turnsOf, List.filter_append, hne]
  rw [Remembers, heq]
  exact h

/-! ### The invariant -/

/-- What holds between the steps of every interleaving. -/
structure Inv (maximum : Nat) (service : Service) : Prop where
  capacity : service.maximum = maximum
  bounded : service.states.length ≤ maximum
  keys : (service.states.map Prod.fst).Nodup
  own : (service.states.map Prod.snd).Nodup
  known : ∀ entry ∈ service.states, entry.2 < service.fresh
  held : ∀ call ∈ service.calls, ∀ state, call.state? = some state →
    ∃ key, call.key = some key ∧ (key, state) ∈ service.states
  users : ∀ entry ∈ service.states,
    (service.objects entry.2).users = service.calls.countP (Call.holds entry.2)
  locks : ∀ entry ∈ service.states,
    service.calls.countP (Call.runs entry.2) = (service.objects entry.2).locked.toNat
  remembered : ∀ entry ∈ service.states, Remembers service.recorded entry.1
    (service.objects entry.2).messages (service.objects entry.2).turns
  trusted : ∀ call ∈ service.calls, ∀ state history trusted,
    call.phase = .running state history trusted → ∀ key, call.key = some key →
      history = (service.objects state).messages ++ [call.text] ∧
        trusted = key.discourse (service.objects state).turns
  stateless : ∀ call ∈ service.calls, ∀ users, call.phase = .replaying users →
    ∀ key, call.key = some key → users = [call.text]

theorem inv_initial (maximum : Nat) : Inv maximum (initial maximum) where
  capacity := rfl
  bounded := Nat.zero_le _
  keys := List.nodup_nil
  own := List.nodup_nil
  known := by simp [initial]
  held := by simp [initial]
  users := by simp [initial]
  locks := by simp [initial]
  remembered := by simp [initial]
  trusted := by simp [initial]
  stateless := by simp [initial]

section Phases

variable (key : Option Key) (text : String) (state entry : Nat) (history users : List String)
  (trusted : DiscourseContext)

@[simp] theorem holds_waiting : Call.holds entry ⟨key, text, .waiting state⟩ = (state == entry) := by
  simp [Call.holds, Call.state?]

@[simp] theorem holds_running :
    Call.holds entry ⟨key, text, .running state history trusted⟩ = (state == entry) := by
  simp [Call.holds, Call.state?]

@[simp] theorem holds_replaying : Call.holds entry ⟨key, text, .replaying users⟩ = false := by
  simp [Call.holds, Call.state?]

@[simp] theorem runs_waiting : Call.runs entry ⟨key, text, .waiting state⟩ = false := by
  simp [Call.runs, Call.atPlanner]

@[simp] theorem runs_running :
    Call.runs entry ⟨key, text, .running state history trusted⟩ = (state == entry) := by
  simp [Call.runs, Call.state?, Call.atPlanner]

@[simp] theorem runs_replaying : Call.runs entry ⟨key, text, .replaying users⟩ = false := by
  simp [Call.runs, Call.state?]

end Phases

namespace Inv

/-- A key has one state. -/
theorem state_unique (inv : Inv maximum service) {key : Key} {a b : Nat}
    (ha : (key, a) ∈ service.states) (hb : (key, b) ∈ service.states) : a = b := by
  have h := List.inj_on_of_nodup_map inv.keys ha hb rfl
  exact congrArg Prod.snd h

/-- A state object has one key. -/
theorem key_unique (inv : Inv maximum service) {a b : Key} {state : Nat}
    (ha : (a, state) ∈ service.states) (hb : (b, state) ∈ service.states) : a = b := by
  have h := List.inj_on_of_nodup_map inv.own ha hb rfl
  exact congrArg Prod.fst h

/-- A held state object has a user. -/
theorem users_pos (inv : Inv maximum service) {call : Call} {state : Nat} {key : Key}
    (hcall : call ∈ service.calls) (hstate : call.state? = some state)
    (hentry : (key, state) ∈ service.states) : 0 < (service.objects state).users := by
  rw [inv.users _ hentry]
  exact List.countP_pos_iff.2 ⟨call, hcall, by simp [Call.holds, hstate]⟩

/-! ### Changes of the table of states -/

theorem reorder (inv : Inv maximum service) {states : List (Key × Nat)}
    (h : states.Perm service.states) : Inv maximum { service with states := states } where
  capacity := inv.capacity
  bounded := h.length_eq ▸ inv.bounded
  keys := ((h.map Prod.fst).nodup_iff).2 inv.keys
  own := ((h.map Prod.snd).nodup_iff).2 inv.own
  known entry hentry := inv.known entry (h.mem_iff.1 hentry)
  held call hcall state hstate := by
    obtain ⟨key, hkey, hentry⟩ := inv.held call hcall state hstate
    exact ⟨key, hkey, h.mem_iff.2 hentry⟩
  users entry hentry := inv.users entry (h.mem_iff.1 hentry)
  locks entry hentry := inv.locks entry (h.mem_iff.1 hentry)
  remembered entry hentry := inv.remembered entry (h.mem_iff.1 hentry)
  trusted := inv.trusted
  stateless := inv.stateless

/-- Evicting a state without users takes nothing from a call in progress. -/
theorem evict (inv : Inv maximum service) {key : Key} {state : Nat}
    (hentry : (key, state) ∈ service.states) (hidle : (service.objects state).users = 0) :
    Inv maximum { service with states := service.states.filter fun entry => entry.1 ≠ key } where
  capacity := inv.capacity
  bounded := (List.length_filter_le _ _).trans inv.bounded
  keys := inv.keys.sublist (List.filter_sublist.map _)
  own := inv.own.sublist (List.filter_sublist.map _)
  known entry h := inv.known entry (List.mem_of_mem_filter h)
  held call hcall held_state hstate := by
    obtain ⟨held_key, hkey, hheld⟩ := inv.held call hcall held_state hstate
    refine ⟨held_key, hkey, List.mem_filter.2 ⟨hheld, ?_⟩⟩
    have hne : held_key ≠ key := by
      rintro rfl
      have hsame := inv.state_unique hheld hentry
      have hpos := inv.users_pos hcall hstate hheld
      rw [hsame] at hpos
      omega
    simpa using hne
  users entry h := inv.users entry (List.mem_of_mem_filter h)
  locks entry h := inv.locks entry (List.mem_of_mem_filter h)
  remembered entry h := inv.remembered entry (List.mem_of_mem_filter h)
  trusted := inv.trusted
  stateless := inv.stateless

/-- A new state, for a key that has none. -/
theorem create (inv : Inv maximum service) {key : Key}
    (hnew : key ∉ service.states.map Prod.fst) (hroom : service.states.length < maximum) :
    Inv maximum { service with
      states := service.states ++ [(key, service.fresh)]
      objects := Function.update service.objects service.fresh .new
      fresh := service.fresh + 1 } := by
  have hfresh : ∀ entry ∈ service.states, entry.2 ≠ service.fresh := fun entry h =>
    (inv.known entry h).ne
  have hunheld : ∀ call ∈ service.calls, call.state? ≠ some service.fresh := by
    intro call hcall hstate
    obtain ⟨held_key, -, hheld⟩ := inv.held call hcall _ hstate
    exact hfresh _ hheld rfl
  have hcount : ∀ p : Call → Bool, (∀ call, p call = true → call.state? = some service.fresh) →
      service.calls.countP p = 0 := by
    intro p hp
    rw [List.countP_eq_zero]
    exact fun call hcall hpc => hunheld call hcall (hp call hpc)
  constructor
  case capacity => exact inv.capacity
  case bounded => rw [List.length_append, List.length_singleton]; exact hroom
  case keys =>
    rw [List.map_append, List.nodup_append]
    refine ⟨inv.keys, by simp, ?_⟩
    rintro k hk _ hmem rfl
    simp only [List.map_cons, List.map_nil, List.mem_singleton] at hmem
    exact hnew (hmem ▸ hk)
  case own =>
    rw [List.map_append, List.nodup_append]
    refine ⟨inv.own, by simp, ?_⟩
    rintro state hstate _ hmem rfl
    simp only [List.map_cons, List.map_nil, List.mem_singleton] at hmem
    obtain ⟨entry, hentry, rfl⟩ := List.mem_map.1 hstate
    exact hfresh entry hentry hmem
  case known =>
    intro entry hentry
    rcases List.mem_append.1 hentry with h | h
    · exact (inv.known entry h).trans (Nat.lt_succ_self _)
    · rw [List.mem_singleton.1 h]
      exact Nat.lt_succ_self _
  case held =>
    intro call hcall state hstate
    obtain ⟨held_key, hkey, hheld⟩ := inv.held call hcall state hstate
    exact ⟨held_key, hkey, List.mem_append_left _ hheld⟩
  case users =>
    intro entry hentry
    dsimp only at hentry ⊢
    rcases List.mem_append.1 hentry with h | h
    · rw [Function.update_of_ne (hfresh entry h)]
      exact inv.users entry h
    · rw [List.mem_singleton.1 h, Function.update_self, hcount _ (by simp [Call.holds])]
      rfl
  case locks =>
    intro entry hentry
    dsimp only at hentry ⊢
    rcases List.mem_append.1 hentry with h | h
    · rw [Function.update_of_ne (hfresh entry h)]
      exact inv.locks entry h
    · rw [List.mem_singleton.1 h, Function.update_self, hcount _ (by simp [Call.runs]; tauto)]
      rfl
  case remembered =>
    intro entry hentry
    dsimp only at hentry ⊢
    rcases List.mem_append.1 hentry with h | h
    · rw [Function.update_of_ne (hfresh entry h)]
      exact inv.remembered entry h
    · rw [List.mem_singleton.1 h, Function.update_self]
      exact .nil _ _
  case trusted =>
    intro call hcall state history trusted hphase k hkey
    have hne : state ≠ service.fresh := by
      rintro rfl
      exact hunheld call hcall (by simp [Call.state?, hphase])
    dsimp only
    rw [Function.update_of_ne hne]
    exact inv.trusted call hcall state history trusted hphase k hkey
  case stateless => exact inv.stateless

/-! ### Changes of the calls -/

/-- A call that holds no state comes. -/
theorem addStateless (inv : Inv maximum service) {key : Option Key} {text : String}
    {users : List String} (h : ∀ k, key = some k → users = [text]) :
    Inv maximum { service with calls := service.calls ++ [⟨key, text, .replaying users⟩] } where
  capacity := inv.capacity
  bounded := inv.bounded
  keys := inv.keys
  own := inv.own
  known := inv.known
  held call hcall state hstate := by
    rcases List.mem_append.1 hcall with hcall | hcall
    · exact inv.held call hcall state hstate
    · rw [List.mem_singleton.1 hcall] at hstate
      simp [Call.state?] at hstate
  users entry hentry := by
    rw [inv.users entry hentry]
    simp [List.countP_append]
  locks entry hentry := by
    rw [← inv.locks entry hentry]
    simp [List.countP_append]
  remembered := inv.remembered
  trusted call hcall state history trusted hphase := by
    rcases List.mem_append.1 hcall with hcall | hcall
    · exact inv.trusted call hcall state history trusted hphase
    · rw [List.mem_singleton.1 hcall] at hphase
      cases hphase
  stateless call hcall others hphase k hkey := by
    rcases List.mem_append.1 hcall with hcall | hcall
    · exact inv.stateless call hcall others hphase k hkey
    · rw [List.mem_singleton.1 hcall] at hphase hkey ⊢
      rw [← Phase.replaying.inj hphase]
      exact h k hkey

/-- A call that holds no state goes. -/
theorem dropStateless (inv : Inv maximum service) {before after : List Call} {key : Option Key}
    {text : String} {users : List String}
    (hcalls : service.calls = before ++ ⟨key, text, .replaying users⟩ :: after) :
    Inv maximum { service with calls := before ++ after } := by
  have hmem : ∀ call ∈ before ++ after, call ∈ service.calls := by
    intro call hcall
    rw [hcalls]
    simp only [List.mem_append, List.mem_cons] at hcall ⊢
    tauto
  constructor
  case capacity => exact inv.capacity
  case bounded => exact inv.bounded
  case keys => exact inv.keys
  case own => exact inv.own
  case known => exact inv.known
  case held => exact fun call hcall => inv.held call (hmem call hcall)
  case users =>
    intro entry hentry
    rw [inv.users entry hentry, hcalls]
    simp [List.countP_append]
  case locks =>
    intro entry hentry
    rw [← inv.locks entry hentry, hcalls]
    simp [List.countP_append]
  case remembered => exact inv.remembered
  case trusted => exact fun call hcall => inv.trusted call (hmem call hcall)
  case stateless => exact fun call hcall => inv.stateless call (hmem call hcall)

/-- A call comes to wait at the lock of a stored state. -/
theorem enter (inv : Inv maximum service) {key : Key} {state : Nat} (text : String)
    (hentry : (key, state) ∈ service.states) :
    Inv maximum (service.enter key state service.states text) := by
  constructor
  case capacity => exact inv.capacity
  case bounded => exact inv.bounded
  case keys => exact inv.keys
  case own => exact inv.own
  case known => exact inv.known
  case held =>
    intro call hcall held_state hstate
    rcases List.mem_append.1 hcall with hcall | hcall
    · exact inv.held call hcall held_state hstate
    · rw [List.mem_singleton.1 hcall] at hstate ⊢
      exact ⟨key, rfl, Option.some.inj hstate ▸ hentry⟩
  case users =>
    intro entry hmem
    dsimp only [Service.enter] at hmem ⊢
    by_cases hstate : entry.2 = state
    · have h := inv.users entry hmem
      rw [hstate] at h ⊢
      simp [List.countP_append, h]
    · rw [Function.update_of_ne hstate, inv.users entry hmem]
      simp [List.countP_append, Ne.symm hstate]
  case locks =>
    intro entry hmem
    dsimp only [Service.enter] at hmem ⊢
    have h := inv.locks entry hmem
    by_cases hstate : entry.2 = state
    · rw [hstate] at h ⊢
      simp [List.countP_append, h]
    · rw [Function.update_of_ne hstate, ← h]
      simp [List.countP_append]
  case remembered =>
    intro entry hmem
    dsimp only [Service.enter] at hmem ⊢
    have h := inv.remembered entry hmem
    by_cases hstate : entry.2 = state
    · rw [hstate] at h ⊢
      rw [Function.update_self]
      exact h
    · rw [Function.update_of_ne hstate]
      exact h
  case trusted =>
    intro call hcall run_state history trusted hphase k hkey
    dsimp only [Service.enter] at hcall ⊢
    rcases List.mem_append.1 hcall with hcall | hcall
    · have h := inv.trusted call hcall run_state history trusted hphase k hkey
      by_cases hstate : run_state = state
      · rw [hstate] at h ⊢
        rw [Function.update_self]
        exact h
      · rw [Function.update_of_ne hstate]
        exact h
    · rw [List.mem_singleton.1 hcall] at hphase
      cases hphase
  case stateless =>
    intro call hcall users hphase k hkey
    rcases List.mem_append.1 hcall with hcall | hcall
    · exact inv.stateless call hcall users hphase k hkey
    · rw [List.mem_singleton.1 hcall] at hphase
      cases hphase

section Leaving

variable {before after : List Call} {key : Key} {text : String} {state : Nat}

/-- Every call but the one that leaves was there before. -/
theorem mem_of_rest {call : Call} {phase : Phase}
    (hcalls : service.calls = before ++ ⟨some key, text, phase⟩ :: after)
    (hcall : call ∈ before ++ after) : call ∈ service.calls := by
  rw [hcalls]
  simp only [List.mem_append, List.mem_cons] at hcall ⊢
  tauto

/-- The key and the state of a call that waits or runs are an entry. -/
theorem entry_of_call (inv : Inv maximum service) {phase : Phase}
    (hcalls : service.calls = before ++ ⟨some key, text, phase⟩ :: after)
    (hstate : (⟨some key, text, phase⟩ : Call).state? = some state) :
    (key, state) ∈ service.states := by
  obtain ⟨held_key, hkey, hentry⟩ := inv.held ⟨some key, text, phase⟩
    (by rw [hcalls]; simp) state hstate
  exact Option.some.inj hkey ▸ hentry

/-- While a call runs, no other call runs on its state. -/
theorem others_elsewhere (inv : Inv maximum service) {history : List String}
    {trusted : DiscourseContext}
    (hcalls : service.calls = before ++ ⟨some key, text, .running state history trusted⟩ :: after)
    {call : Call} (hcall : call ∈ before ++ after) : call.runs state = false := by
  have hentry := inv.entry_of_call hcalls rfl
  have hcount := inv.locks _ hentry
  have hle := Bool.toNat_le (service.objects state).locked
  dsimp only at hcount
  rw [hcalls, List.countP_append, List.countP_cons, runs_running, if_pos (by simp)] at hcount
  have hzero : (before ++ after).countP (Call.runs state) = 0 := by
    rw [List.countP_append]
    omega
  simpa using (List.countP_eq_zero.1 hzero) call hcall

theorem acquire (inv : Inv maximum service)
    (hcalls : service.calls = before ++ ⟨some key, text, .waiting state⟩ :: after)
    (hfree : (service.objects state).locked = false) :
    Inv maximum
      { service.setObject state { service.objects state with locked := true } with
        calls := before ++ ⟨some key, text, .running state
          ((service.objects state).messages ++ [text])
          (key.discourse (service.objects state).turns)⟩ :: after } := by
  have hentry := inv.entry_of_call hcalls rfl
  constructor
  case capacity => exact inv.capacity
  case bounded => exact inv.bounded
  case keys => exact inv.keys
  case own => exact inv.own
  case known => exact inv.known
  case held =>
    intro call hcall held_state hstate
    simp only [List.mem_append, List.mem_cons] at hcall
    rcases hcall with hcall | rfl | hcall
    · exact inv.held call (mem_of_rest hcalls (List.mem_append_left _ hcall)) held_state hstate
    · exact ⟨key, rfl, Option.some.inj hstate ▸ hentry⟩
    · exact inv.held call (mem_of_rest hcalls (List.mem_append_right _ hcall)) held_state hstate
  case users =>
    intro entry hmem
    dsimp only [Service.setObject] at hmem ⊢
    have h := inv.users entry hmem
    rw [hcalls] at h
    by_cases hstate : entry.2 = state
    · rw [hstate] at h ⊢
      rw [Function.update_self, h]
      simp [List.countP_append]
    · rw [Function.update_of_ne hstate, h]
      simp [List.countP_append, List.countP_cons]
  case locks =>
    intro entry hmem
    dsimp only [Service.setObject] at hmem ⊢
    have h := inv.locks entry hmem
    rw [hcalls] at h
    by_cases hstate : entry.2 = state
    · rw [hstate, hfree] at h
      rw [hstate, Function.update_self]
      simp only [List.countP_append, List.countP_cons, runs_waiting, runs_running, Bool.toNat_false,
        Bool.toNat_true, beq_self_eq_true, if_true] at h ⊢
      omega
    · rw [Function.update_of_ne hstate, ← h]
      simp [List.countP_append, Ne.symm hstate]
  case remembered =>
    intro entry hmem
    dsimp only [Service.setObject] at hmem ⊢
    have h := inv.remembered entry hmem
    by_cases hstate : entry.2 = state
    · rw [hstate] at h ⊢
      rw [Function.update_self]
      exact h
    · rw [Function.update_of_ne hstate]
      exact h
  case trusted =>
    intro call hcall run_state history trusted hphase k hkey
    dsimp only [Service.setObject] at hcall ⊢
    have hobject : ∀ other, (Function.update service.objects state
        { service.objects state with locked := true } other).messages
          = (service.objects other).messages ∧
        (Function.update service.objects state
        { service.objects state with locked := true } other).turns
          = (service.objects other).turns := by
      intro other
      by_cases hother : other = state
      · rw [hother, Function.update_self]
        exact ⟨rfl, rfl⟩
      · rw [Function.update_of_ne hother]
        exact ⟨rfl, rfl⟩
    rw [(hobject run_state).1, (hobject run_state).2]
    simp only [List.mem_append, List.mem_cons] at hcall
    rcases hcall with hcall | rfl | hcall
    · exact inv.trusted call (mem_of_rest hcalls (List.mem_append_left _ hcall)) _ _ _ hphase k hkey
    · obtain ⟨rfl, rfl, rfl⟩ := Phase.running.inj hphase
      obtain rfl := Option.some.inj hkey
      exact ⟨rfl, rfl⟩
    · exact inv.trusted call (mem_of_rest hcalls (List.mem_append_right _ hcall)) _ _ _ hphase k hkey
  case stateless =>
    intro call hcall users hphase k hkey
    simp only [List.mem_append, List.mem_cons] at hcall
    rcases hcall with hcall | rfl | hcall
    · exact inv.stateless call (mem_of_rest hcalls (List.mem_append_left _ hcall)) _ hphase k hkey
    · cases hphase
    · exact inv.stateless call (mem_of_rest hcalls (List.mem_append_right _ hcall)) _ hphase k hkey

/-- The call under the lock ends, and its turn is recorded. -/
theorem record (inv : Inv maximum service) {history : List String} {trusted : DiscourseContext}
    (outcome : Option TurnAnswer)
    (hcalls : service.calls = before ++ ⟨some key, text, .running state history trusted⟩ :: after) :
    Inv maximum { service.record ⟨key, text, outcome⟩ state history with
      calls := before ++ after } := by
  have hentry := inv.entry_of_call hcalls rfl
  have hrest := fun (call : Call) (hcall : call ∈ before ++ after) => mem_of_rest hcalls hcall
  have hkeys : ∀ entry ∈ service.states, entry.2 ≠ state → key ≠ entry.1 := by
    rintro ⟨k, other⟩ hmem hne rfl
    exact hne (inv.state_unique hmem hentry)
  have hown : ⟨some key, text, .running state history trusted⟩ ∈ service.calls := by
    rw [hcalls]
    simp
  have hhistory := (inv.trusted _ hown _ _ _ rfl key rfl).1
  constructor
  case capacity => exact inv.capacity
  case bounded => exact inv.bounded
  case keys => exact inv.keys
  case own => exact inv.own
  case known => exact inv.known
  case held => exact fun call hcall => inv.held call (hrest call hcall)
  case users =>
    intro entry hmem
    dsimp only [Service.record, Service.release, Service.setObject] at hmem ⊢
    have h := inv.users entry hmem
    rw [hcalls] at h
    by_cases hstate : entry.2 = state
    · rw [hstate] at h ⊢
      rw [Function.update_self]
      simp only [List.countP_append, List.countP_cons, holds_running, beq_self_eq_true,
        if_true] at h ⊢
      omega
    · rw [Function.update_of_ne hstate, h]
      simp [List.countP_append, Ne.symm hstate]
  case locks =>
    intro entry hmem
    dsimp only [Service.record, Service.release, Service.setObject] at hmem ⊢
    have h := inv.locks entry hmem
    by_cases hstate : entry.2 = state
    · rw [hstate, Function.update_self, List.countP_eq_zero.2 fun call hcall => by
        simpa using inv.others_elsewhere hcalls hcall]
      simp
    · rw [hcalls] at h
      rw [Function.update_of_ne hstate, ← h]
      simp [List.countP_append, Ne.symm hstate]
  case remembered =>
    intro entry hmem
    dsimp only [Service.record, Service.release, Service.setObject] at hmem ⊢
    have h := inv.remembered entry hmem
    by_cases hstate : entry.2 = state
    · obtain ⟨k, other⟩ := entry
      obtain rfl : other = state := hstate
      obtain rfl := inv.key_unique hmem hentry
      rw [Function.update_self, hhistory]
      exact @Remembers.record _ _ _ ⟨k, text, outcome⟩ h
    · rw [Function.update_of_ne hstate]
      exact h.of_ne (hkeys entry hmem hstate)
  case trusted =>
    intro call hcall run_state call_history call_trusted hphase k hkey
    dsimp only [Service.record, Service.release, Service.setObject] at hcall ⊢
    have hne : run_state ≠ state := by
      rintro rfl
      have helse := inv.others_elsewhere hcalls hcall
      simp [Call.runs, Call.state?, Call.atPlanner, hphase] at helse
    rw [Function.update_of_ne hne]
    exact inv.trusted call (hrest call hcall) _ _ _ hphase k hkey
  case stateless => exact fun call hcall => inv.stateless call (hrest call hcall)

/-- A call gives up waiting. -/
theorem cancel (inv : Inv maximum service)
    (hcalls : service.calls = before ++ ⟨some key, text, .waiting state⟩ :: after) :
    Inv maximum { service.release state (service.objects state) false with
      calls := before ++ after } := by
  have hrest := fun (call : Call) (hcall : call ∈ before ++ after) => mem_of_rest hcalls hcall
  constructor
  case capacity => exact inv.capacity
  case bounded => exact inv.bounded
  case keys => exact inv.keys
  case own => exact inv.own
  case known => exact inv.known
  case held => exact fun call hcall => inv.held call (hrest call hcall)
  case users =>
    intro entry hmem
    dsimp only [Service.release, Service.setObject] at hmem ⊢
    have h := inv.users entry hmem
    rw [hcalls] at h
    by_cases hstate : entry.2 = state
    · rw [hstate] at h ⊢
      rw [Function.update_self]
      simp only [List.countP_append, List.countP_cons, holds_waiting, beq_self_eq_true,
        if_true] at h ⊢
      omega
    · rw [Function.update_of_ne hstate, h]
      simp [List.countP_append, Ne.symm hstate]
  case locks =>
    intro entry hmem
    dsimp only [Service.release, Service.setObject] at hmem ⊢
    have h := inv.locks entry hmem
    rw [hcalls] at h
    by_cases hstate : entry.2 = state
    · rw [hstate] at h ⊢
      rw [Function.update_self]
      simpa [List.countP_append] using h
    · rw [Function.update_of_ne hstate, ← h]
      simp [List.countP_append]
  case remembered =>
    intro entry hmem
    dsimp only [Service.release, Service.setObject] at hmem ⊢
    have h := inv.remembered entry hmem
    by_cases hstate : entry.2 = state
    · rw [hstate] at h ⊢
      rw [Function.update_self]
      exact h
    · rw [Function.update_of_ne hstate]
      exact h
  case trusted =>
    intro call hcall run_state history trusted hphase k hkey
    dsimp only [Service.release, Service.setObject] at hcall ⊢
    have h := inv.trusted call (hrest call hcall) _ _ _ hphase k hkey
    by_cases hstate : run_state = state
    · rw [hstate] at h ⊢
      rw [Function.update_self]
      exact h
    · rw [Function.update_of_ne hstate]
      exact h
  case stateless => exact fun call hcall => inv.stateless call (hrest call hcall)

end Leaving

/-! ### Arrivals -/

theorem lookup_eq_some {states : List (Key × Nat)} {key : Key} {state : Nat}
    (h : states.lookup key = some state) : (key, state) ∈ states := by
  obtain ⟨before, after, rfl, -⟩ := List.lookup_eq_some_iff.1 h
  simp

theorem lookup_eq_none {states : List (Key × Nat)} {key : Key} (h : states.lookup key = none) :
    key ∉ states.map Prod.fst := by
  intro hmem
  obtain ⟨entry, hentry, rfl⟩ := List.mem_map.1 hmem
  have hne := List.lookup_eq_none_iff.1 h entry hentry
  simp at hne

/-- A state moved to the end leaves the same states. -/
theorem moveToEnd_perm (inv : Inv maximum service) {key : Key} {state : Nat}
    (hentry : (key, state) ∈ service.states) :
    (service.moveToEnd key state).Perm service.states := by
  have hothers : (service.states.filter fun entry => decide (entry.1 = key)) = [(key, state)] := by
    obtain ⟨before, after, hsplit⟩ := List.append_of_mem hentry
    have hkeys := inv.keys
    rw [hsplit, List.map_append, List.map_cons, List.nodup_middle, List.nodup_cons] at hkeys
    have hnone : ∀ entry ∈ before ++ after, ¬entry.1 = key := by
      intro entry hmem heq
      rw [← List.map_append] at hkeys
      exact hkeys.1 (List.mem_map.2 ⟨entry, hmem, heq⟩)
    rw [hsplit, List.filter_append, List.filter_cons,
      List.filter_eq_nil_iff.2 fun entry h => by
        simpa using hnone entry (List.mem_append_left _ h),
      List.filter_eq_nil_iff.2 fun entry h => by
        simpa using hnone entry (List.mem_append_right _ h)]
    simp
  have hperm := List.filter_append_perm (fun entry => decide (entry.1 = key)) service.states
  rw [hothers] at hperm
  rw [Service.moveToEnd]
  refine (List.perm_append_comm).trans ?_
  simpa using hperm

/-- Room for one more state is made without harm. -/
theorem room (inv : Inv maximum service) {states : List (Key × Nat)}
    (h : service.room = some states) :
    Inv maximum { service with states := states } ∧ states.length < maximum ∧
      states ⊆ service.states := by
  rw [Service.room] at h
  split at h
  case isTrue hfull =>
    obtain ⟨key, hidle, rfl⟩ := Option.map_eq_some_iff.1 h
    obtain ⟨⟨k, state⟩, hfind, rfl⟩ := Option.map_eq_some_iff.1 hidle
    have hentry := List.mem_of_find?_eq_some hfind
    have hunused : (service.objects state).users = 0 := by
      simpa using List.find?_some hfind
    refine ⟨inv.evict hentry hunused, ?_, List.filter_subset_self _⟩
    refine lt_of_lt_of_le (List.length_filter_lt_length_iff_exists.2 ?_) inv.bounded
    exact ⟨(k, state), hentry, by simp⟩
  case isFalse hroom =>
    obtain rfl := Option.some.inj h
    rw [inv.capacity] at hroom
    exact ⟨inv, by omega, List.Subset.refl _⟩

theorem arrive (inv : Inv maximum service) (context : AgentRequestContext) (users : List String)
    (text : String) : Inv maximum (service.arrive context users text) := by
  rw [Service.arrive]
  cases hkey : keyOf context with
  | none => exact inv.addStateless (by simp)
  | some key =>
      dsimp only
      cases hlookup : service.states.lookup key with
      | some state =>
          have hentry := lookup_eq_some hlookup
          have hperm := inv.moveToEnd_perm hentry
          exact (inv.reorder hperm).enter text (hperm.mem_iff.2 hentry)
      | none =>
          dsimp only
          cases hroom : service.room with
          | none => exact inv.addStateless fun _ _ => rfl
          | some states =>
              obtain ⟨hinv, hlt, hsubset⟩ := inv.room hroom
              have hnew : key ∉ states.map Prod.fst := fun hmem =>
                lookup_eq_none hlookup (List.map_subset _ hsubset hmem)
              exact (hinv.create hnew hlt).enter text
                (List.mem_append_right _ (List.mem_singleton_self _))

/-- **One step keeps the invariant.** -/
theorem step (inv : Inv maximum service) (h : Step service service') : Inv maximum service' := by
  cases h with
  | arrive context users text => exact inv.arrive context users text
  | acquire before after key text state hcalls hfree => exact inv.acquire hcalls hfree
  | finish before after key text state history trusted answer hcalls =>
      exact inv.record (some answer) hcalls
  | fail before after key text state history trusted hcalls => exact inv.record none hcalls
  | cancel before after key text state hcalls => exact inv.cancel hcalls
  | replayed before after key text users hcalls => exact inv.dropStateless hcalls

end Inv

theorem inv_of_reachable (h : Reachable maximum service) : Inv maximum service := by
  induction h with
  | refl => exact inv_initial maximum
  | tail _ hstep ih => exact ih.step hstep

/-! ### The guarantee -/

/-- Two calls of one key that hold a state hold the same one, and at most one of them
runs the planner and the executor. -/
def Separate (a b : Call) : Prop :=
  ∀ key s t, a.key = some key → b.key = some key → a.state? = some s → b.state? = some t →
    s = t ∧ ¬(a.atPlanner ∧ b.atPlanner)

/-- At most one call runs under the lock of a state. -/
theorem Inv.runs_le_one (inv : Inv maximum service) {entry : Key × Nat}
    (hentry : entry ∈ service.states) : service.calls.countP (Call.runs entry.2) ≤ 1 := by
  rw [inv.locks entry hentry]
  exact Bool.toNat_le _

/-- A list with at most one element that satisfies `p` has no pair of them. -/
theorem pairwise_of_countP_le_one {α : Type} {p : α → Bool} {xs : List α}
    (h : xs.countP p ≤ 1) : xs.Pairwise fun a b => ¬(p a ∧ p b) := by
  induction xs with
  | nil => exact .nil
  | cons x xs ih =>
      rw [List.countP_cons] at h
      refine .cons (fun b hb hp => ?_) (ih (by omega))
      have hpos := List.countP_pos_iff.2 ⟨b, hb, hp.2⟩
      rw [if_pos hp.1] at h
      omega

theorem Inv.separate (inv : Inv maximum service) : service.calls.Pairwise Separate := by
  have hruns : service.calls.Pairwise fun a b =>
      ∀ entry ∈ service.states, ¬(a.runs entry.2 ∧ b.runs entry.2) := by
    rw [List.pairwise_iff_forall_sublist]
    intro a b hsub entry hentry
    have hle := (hsub.countP_le (p := Call.runs entry.2)).trans (inv.runs_le_one hentry)
    exact (List.pairwise_cons.1 (pairwise_of_countP_le_one hle)).1 b (List.mem_singleton_self b)
  refine hruns.imp_of_mem ?_
  intro a b ha hb hab key s t hka hkb hsa htb
  obtain ⟨ka, hka', hea⟩ := inv.held a ha s hsa
  obtain ⟨kb, hkb', heb⟩ := inv.held b hb t htb
  obtain rfl := Option.some.inj (hka'.symm.trans hka)
  obtain rfl := Option.some.inj (hkb'.symm.trans hkb)
  obtain rfl := inv.state_unique hea heb
  refine ⟨rfl, fun hplan => hab _ hea ?_⟩
  simp [Call.runs, hsa, htb, hplan.1, hplan.2]

/-- **Conversation state is sound in every interleaving.**  The stored states never
exceed the maximum; two calls of one key that hold a state hold the same state and
do not run the planner at once; every stored state remembers the texts and foci of
the last turns, at most eight, recorded under its key; the history and the
discourse context of a running call come from such turns of its own key; and a
call that found no state capacity carries no turn but its own. -/
theorem reachable_sound (h : Reachable maximum service) :
    service.states.length ≤ maximum ∧
    service.calls.Pairwise Separate ∧
    (∀ entry ∈ service.states, Remembers service.recorded entry.1
      (service.objects entry.2).messages (service.objects entry.2).turns) ∧
    (∀ call ∈ service.calls, ∀ state history trusted,
      call.phase = .running state history trusted → ∃ key messages turns,
        call.key = some key ∧ Remembers service.recorded key messages turns ∧
        history = messages ++ [call.text] ∧ trusted = key.discourse turns) ∧
    (∀ call ∈ service.calls, ∀ users, call.phase = .replaying users →
      ∀ key, call.key = some key → users = [call.text]) := by
  have inv := inv_of_reachable h
  refine ⟨inv.bounded, inv.separate, inv.remembered, ?_, inv.stateless⟩
  intro call hcall state history trusted hphase
  obtain ⟨key, hkey, hentry⟩ := inv.held call hcall state (by simp [Call.state?, hphase])
  obtain ⟨hhistory, htrusted⟩ := inv.trusted call hcall state history trusted hphase key hkey
  exact ⟨key, _, _, hkey, inv.remembered _ hentry, hhistory, htrusted⟩

/-- A request of one speaker in a conversation. -/
def requestIn (conversation_id : String) : AgentRequestContext where
  caller_entity_id := some "person:ada"
  assistant_id := "person:assistant"
  assistant_display_name := "Assistant"
  household_id := none
  current_time := ⟨⟨⟨2026, 5, 1, year_2026_range, by decide⟩, 0⟩, false, .utc⟩
  conversation_id := some conversation_id
  discourse := none

/-- A service with room for one state: a turn of `first` is under way when two turns
of `second` arrive. -/
def crowded : Service :=
  (({ (initial 1).arrive (requestIn "first") [] "Where is the mug?" with
      objects := Function.update
        ((initial 1).arrive (requestIn "first") [] "Where is the mug?").objects 0
        ⟨true, 1, [], []⟩
      calls := [⟨some ⟨"first", "person:ada", none, "person:assistant"⟩, "Where is the mug?",
        .running 0 ["Where is the mug?"]
          ⟨"first", some "person:ada", none, "person:assistant", []⟩⟩] }
    ).arrive (requestIn "second") [] "Who is home?").arrive (requestIn "second") [] "And the cat?"

theorem crowded_reachable : Reachable 1 crowded := by
  refine .tail (.tail (.tail (.tail .refl (.arrive _ (requestIn "first") [] "Where is the mug?"))
    ?_) (.arrive _ (requestIn "second") [] "Who is home?"))
    (.arrive _ (requestIn "second") [] "And the cat?")
  exact .acquire _ [] [] ⟨"first", "person:ada", none, "person:assistant"⟩ "Where is the mug?" 0
    rfl rfl

theorem crowded_sound :
    crowded.states.length ≤ 1 ∧ crowded.calls.Pairwise Separate :=
  ⟨(reachable_sound crowded_reachable).1, (reachable_sound crowded_reachable).2.1⟩

/-- Two turns of one key do run the planner at once when there is no state capacity
for them. -/
theorem crowded_not_exclusive : ¬∀ maximum service, Reachable maximum service →
    service.calls.Pairwise fun a b =>
      a.key.isSome → a.key = b.key → ¬(a.atPlanner ∧ b.atPlanner) := by
  intro h
  have hpairs := List.pairwise_cons.1 (List.pairwise_cons.1 (h 1 crowded crowded_reachable)).2
  exact hpairs.1 ⟨some ⟨"second", "person:ada", none, "person:assistant"⟩, "And the cat?",
    .replaying ["And the cat?"]⟩ (List.mem_singleton_self _) rfl rfl ⟨rfl, rfl⟩

end SemanticConversation
end HomeCortex
