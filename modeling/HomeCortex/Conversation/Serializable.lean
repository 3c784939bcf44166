/-
# When interleaved calls of the conversation store are serializable

Every call of the store loads the record and later writes it whole, with nothing
that notices a write in between.  `Current` says when the next database call of a
task does what it would do on the present record and messages.  In runs whose
steps are all current the calls take effect one after the other: an append and a
selection at their upsert, a deletion when it removes the record, and a call that
finds no conversation when it loads.
-/

import HomeCortex.Conversation.Store
import HomeCortex.Library.Linearization

namespace HomeCortex
namespace SurrealConversationStore

open Linearization

variable {calls : List Call} {system system' : System} {index : Nat}

/-- The next database call of a task works on what it has loaded as on the present
state: an upsert finds the record and writes what the call would write if it loaded
the record now, `set_active_embodiment` reads back the record it wrote and the
messages that were settled then, and a deletion finds the record and no settled
message. -/
def Current (system : System) (index : Nat) : Prop :=
  match system.tasks index with
  | .appendUpsert call loaded first =>
      ∃ now, system.db.conversation = some now ∧
        call.upsert loaded first =
          call.upsert now (call.firstUserMessage (hasUserMessage system.settled))
  | .setUpsert call loaded =>
      ∃ now, system.db.conversation = some now ∧ call.upsert loaded = call.upsert now
  | .setReload written => system.db.conversation = some written
  | .setMessages _ => system.db.messages = system.seen index
  | .deleteRecord => system.db.conversation ≠ none ∧ Disjoint system.db.messages system.settled
  | _ => True

/-- A step whose task is current. -/
def CurrentStep (calls : List Call) (system system' : System) : Prop :=
  ∃ index < calls.length, (system.tasks index).isDone = false ∧ Current system index ∧ system' = system.advance index

/-! ### Calls alone -/

/-- What a call returns when there is no conversation. -/
def Call.missing : Call → Answer
  | .append _ | .setActive _ => .missing
  | .delete => .deleted false

theorem alone_missing (call : Call) (messages : Finset Message) :
    Alone call ⟨none, messages⟩ call.missing ⟨none, messages⟩ := by
  cases call <;> rfl

theorem alone_append (call : Append) (now : Conversation) (messages : Finset Message) :
    Alone (.append call) ⟨some now, messages⟩ (.message call.message)
      ⟨some (call.upsert now (call.firstUserMessage (hasUserMessage messages))),
        insert call.message messages⟩ := by
  by_cases hasks : call.asks = true
  · simp [Alone, Call.task, step, hasks]
  · have hsame : ∀ a b, call.firstUserMessage a = call.firstUserMessage b := by
      intro a b
      simp only [Append.asks, Bool.and_eq_true, beq_iff_eq, Option.isNone_iff_eq_none,
        not_and] at hasks
      by_cases hrole : call.role = "user"
      · obtain ⟨first, hfirst⟩ := Option.ne_none_iff_exists'.1 (hasks hrole)
        simp [Append.firstUserMessage, hfirst]
      · simp [Append.firstUserMessage, beq_eq_false_iff_ne.2 hrole]
    rw [hsame (hasUserMessage messages) false]
    simp [Alone, Call.task, step, hasks]

theorem alone_setActive (call : SetActive) (now : Conversation) (messages : Finset Message) :
    Alone (.setActive call) ⟨some now, messages⟩ (.transcript (call.upsert now) messages)
      ⟨some (call.upsert now), messages⟩ := rfl

theorem alone_delete (now : Conversation) (messages : Finset Message) :
    Alone .delete ⟨some now, messages⟩ (.deleted true) ⟨none, ∅⟩ := rfl

/-! ### Promises -/

/-- The call a task belongs to, as long as it has not written the record. -/
def Task.call? : Task → Option Call
  | .appendLoad call | .appendAsk call _ | .appendWrite call _ _ | .appendUpsert call _ _ =>
      some (.append call)
  | .setLoad call | .setUpsert call _ => some (.setActive call)
  | .deleteLoad | .deleteMessages | .deleteRecord => some .delete
  | .setReload _ | .setMessages _ | .done _ => none

/-- The answer that is certain when only current steps follow. -/
def promised (seen : Finset Message) : Task → Option Answer
  | .done answer => some answer
  | .setReload conversation | .setMessages conversation => some (.transcript conversation seen)
  | _ => none

/-- `promised`, of the calls there are. -/
def promise (calls : List Call) (system : System) (index : Nat) : Option Answer :=
  if index < calls.length then promised (system.seen index) (system.tasks index) else none

/-- The sequential state: the record, and the messages of the appends that have
returned. -/
def abstract (system : System) : Db := ⟨system.db.conversation, system.settled⟩

theorem promised_eq_none {seen : Finset Message} {task : Task} (h : task.call?.isSome) :
    promised seen task = none := by
  cases task <;> first | rfl | exact absurd h (by simp [Task.call?])

/-! ### The messages -/

/-- The message of an append that has not yet written the record. -/
def Task.written? : Task → Option Message
  | .appendUpsert call _ _ => some call.message
  | _ => none

/-- Messages written by appends that have not returned. -/
def Pending (tasks : Nat → Task) (message : Message) : Prop :=
  ∃ index, (tasks index).written? = some message

/-- The task is about to delete the record. -/
def Task.removes : Task → Bool
  | .deleteRecord => true
  | _ => false

theorem pending_update {tasks : Nat → Task} {task : Task} {message : Message}
    (h : task.written? = (tasks index).written?) :
    Pending (Function.update tasks index task) message ↔ Pending tasks message := by
  refine exists_congr fun other => ?_
  by_cases hother : other = index
  · rw [hother, Function.update_self, h]
  · rw [Function.update_of_ne hother]

/-- What relates the stored messages to the settled ones. -/
structure Stored (db : Db) (tasks : Nat → Task) (settled : Finset Message) : Prop where
  known : ∀ message ∈ db.messages, message ∈ settled ∨ Pending tasks message
  complete : db.conversation ≠ none → (∀ index, (tasks index).removes = false) →
    ∀ message, message ∈ settled ∨ Pending tasks message → message ∈ db.messages
  gone : db.conversation = none → settled = ∅

/-- A database call that touches no message and neither makes nor removes the record. -/
theorem Stored.quiet {db db' : Db} {tasks : Nat → Task} {settled : Finset Message} {task : Task}
    (h : Stored db tasks settled) (hmessages : db'.messages = db.messages)
    (hrecord : db'.conversation = none ↔ db.conversation = none)
    (hwritten : task.written? = (tasks index).written?)
    (hremoves : task.removes = (tasks index).removes) :
    Stored db' (Function.update tasks index task) settled where
  known message hmem := by
    rw [pending_update hwritten]
    exact h.known message (hmessages ▸ hmem)
  complete hexists hnone message hmem := by
    rw [hmessages]
    refine h.complete (fun hgone => hexists (hrecord.2 hgone)) (fun other => ?_) message
      (by rwa [pending_update hwritten] at hmem)
    have hother := hnone other
    by_cases hsame : other = index
    · rw [hsame, Function.update_self, hremoves] at hother
      rwa [hsame]
    · rwa [Function.update_of_ne hsame] at hother
  gone hgone := h.gone (hrecord.1 hgone)

/-- Writing a message makes it pending. -/
theorem Stored.write {db : Db} {tasks : Nat → Task} {settled : Finset Message} {call : Append}
    {loaded : Conversation} {first : Bool} (h : Stored db tasks settled)
    (htask : tasks index = .appendWrite call loaded first) :
    Stored { db with messages := insert call.message db.messages }
      (Function.update tasks index (.appendUpsert call loaded first)) settled := by
  have hpending : ∀ message, Pending (Function.update tasks index
      (.appendUpsert call loaded first)) message ↔
        message = call.message ∨ Pending tasks message := by
    intro message
    constructor
    · rintro ⟨other, hother⟩
      by_cases hsame : other = index
      · rw [hsame, Function.update_self] at hother
        exact .inl (Option.some.inj hother).symm
      · rw [Function.update_of_ne hsame] at hother
        exact .inr ⟨other, hother⟩
    · rintro (rfl | ⟨other, hother⟩)
      · exact ⟨index, by rw [Function.update_self]; rfl⟩
      · have hne : other ≠ index := by
          rintro rfl
          rw [htask] at hother
          exact absurd hother nofun
        exact ⟨other, by rwa [Function.update_of_ne hne]⟩
  refine ⟨fun message hmem => ?_, fun hexists hnone message hmem => ?_, h.gone⟩
  · rw [hpending]
    rcases Finset.mem_insert.1 hmem with rfl | hmem
    · exact .inr (.inl rfl)
    · exact (h.known message hmem).imp_right .inr
  · have hremoves : ∀ other, (tasks other).removes = false := by
      intro other
      have hother := hnone other
      by_cases hsame : other = index
      · rw [hsame, htask]
        rfl
      · rwa [Function.update_of_ne hsame] at hother
    rw [hpending] at hmem
    rw [Finset.mem_insert]
    rcases hmem with hmem | rfl | hmem
    · exact .inr (h.complete hexists hremoves message (.inl hmem))
    · exact .inl rfl
    · exact .inr (h.complete hexists hremoves message (.inr hmem))

/-- An append that returns settles its message. -/
theorem Stored.settle {db : Db} {tasks : Nat → Task} {settled : Finset Message} {call : Append}
    {loaded written : Conversation} {first : Bool} (h : Stored db tasks settled)
    (htask : tasks index = .appendUpsert call loaded first) (hexists : db.conversation ≠ none) :
    Stored { db with conversation := some written }
      (Function.update tasks index (.done (.message call.message)))
      (insert call.message settled) := by
  have hpending : ∀ message, message ∈ insert call.message settled ∨
      Pending (Function.update tasks index (.done (.message call.message))) message ↔
        message ∈ settled ∨ Pending tasks message := by
    intro message
    rw [Finset.mem_insert]
    constructor
    · rintro ((rfl | hmem) | ⟨other, hother⟩)
      · exact .inr ⟨index, by rw [htask]; rfl⟩
      · exact .inl hmem
      · by_cases hsame : other = index
        · rw [hsame, Function.update_self] at hother
          exact absurd hother nofun
        · rw [Function.update_of_ne hsame] at hother
          exact .inr ⟨other, hother⟩
    · rintro (hmem | ⟨other, hother⟩)
      · exact .inl (.inr hmem)
      · by_cases hsame : other = index
        · rw [hsame, htask] at hother
          exact .inl (.inl (Option.some.inj hother).symm)
        · exact .inr ⟨other, by rwa [Function.update_of_ne hsame]⟩
  refine ⟨fun message hmem => (hpending message).2 (h.known message hmem),
    fun _ hnone message hmem => ?_, nofun⟩
  refine h.complete hexists (fun other => ?_) message ((hpending message).1 hmem)
  have hother := hnone other
  by_cases hsame : other = index
  · rw [hsame, htask]
    rfl
  · rwa [Function.update_of_ne hsame] at hother

/-- Between its two deletions a delete owes the record. -/
theorem Stored.clear {db : Db} {tasks : Nat → Task} {settled : Finset Message}
    (h : Stored db tasks settled) :
    Stored { db with messages := ∅ } (Function.update tasks index .deleteRecord) settled where
  known message hmem := absurd hmem (Finset.notMem_empty message)
  complete _ hnone := by
    have hindex := hnone index
    rw [Function.update_self] at hindex
    exact absurd hindex nofun
  gone := h.gone

/-- The record is removed, and with it what was settled. -/
theorem Stored.remove {db : Db} {tasks : Nat → Task} {settled : Finset Message}
    (h : Stored db tasks settled) (htask : tasks index = .deleteRecord)
    (hdisjoint : Disjoint db.messages settled) (answer : Answer) :
    Stored { db with conversation := none } (Function.update tasks index (.done answer)) ∅ where
  known message hmem := by
    rw [pending_update (by rw [htask]; rfl)]
    exact .inr ((h.known message hmem).resolve_left
      (Finset.disjoint_left.1 hdisjoint hmem))
  complete hexists := absurd rfl hexists
  gone _ := rfl

/-! ### One current step -/

/-- What holds between the steps of a run whose steps are current. -/
structure Inv (calls : List Call) (system : System) : Prop where
  owned : ∀ index call, (system.tasks index).call? = some call → calls[index]? = some call
  outside : ∀ index, calls.length ≤ index → ∃ answer, system.tasks index = .done answer
  stored : Stored system.db system.tasks system.settled
  removed : ∀ index < calls.length, system.tasks index = .done (.deleted true) →
    system.db.conversation = none

theorem inv_start {db : Db} {calls : List Call} (h : db.conversation ≠ none) :
    Inv calls (start db calls) := by
  have hwritten : ∀ index, ((start db calls).tasks index).written? = none := by
    intro index
    rcases hcall : calls[index]? with _ | call
    · simp [start, hcall, Task.written?]
    · cases call <;> simp [start, hcall, Task.written?, Call.task]
  constructor
  case owned =>
    intro index call hcall
    rcases hget : calls[index]? with _ | found
    · simp [start, hget, Task.call?] at hcall
    · cases found <;> simpa [start, hget, Task.call?, Call.task] using hcall
  case outside =>
    intro index hindex
    exact ⟨.missing, by simp [start, List.getElem?_eq_none hindex]⟩
  case stored =>
    refine ⟨fun message hmem => .inl hmem, fun _ _ message hmem => ?_, fun hgone => absurd hgone h⟩
    rcases hmem with hmem | ⟨index, hindex⟩
    · exact hmem
    · rw [hwritten] at hindex
      exact absurd hindex nofun
  case removed =>
    intro index hindex hdone
    obtain ⟨call, hcall⟩ : ∃ call, calls[index]? = some call := ⟨_, List.getElem?_eq_getElem hindex⟩
    cases call <;> simp [start, hcall, Call.task] at hdone

/-- Call `index` moves on to `task`. -/
theorem Inv.update (inv : Inv calls system) (hindex : index < calls.length) {task : Task} {db : Db}
    {settled : Finset Message} {seen : Nat → Finset Message}
    (howned : ∀ call, task.call? = some call → (system.tasks index).call? = some call)
    (hstored : Stored db (Function.update system.tasks index task) settled)
    (hgone : system.db.conversation = none → db.conversation = none)
    (hremoved : task = .done (.deleted true) → db.conversation = none) :
    Inv calls ⟨db, Function.update system.tasks index task, settled, seen⟩ where
  owned other call hcall := by
    dsimp only at hcall
    by_cases hother : other = index
    · rw [hother, Function.update_self] at hcall
      exact hother ▸ inv.owned index call (howned call hcall)
    · rw [Function.update_of_ne hother] at hcall
      exact inv.owned other call hcall
  outside other hother := by
    dsimp only
    rw [Function.update_of_ne (by omega)]
    exact inv.outside other hother
  stored := hstored
  removed other hother hdone := by
    dsimp only at hdone
    by_cases hsame : other = index
    · rw [hsame, Function.update_self] at hdone
      exact hremoved hdone
    · rw [Function.update_of_ne hsame] at hdone
      exact hgone (inv.removed other hother hdone)

/-- A task that moves on without writing anything. -/
theorem Inv.read (inv : Inv calls system) (hindex : index < calls.length) {task : Task}
    (howned : ∀ call, task.call? = some call → (system.tasks index).call? = some call)
    (hwritten : task.written? = (system.tasks index).written?)
    (hremoves : task.removes = (system.tasks index).removes)
    (hremoved : task ≠ .done (.deleted true)) :
    Inv calls { system with tasks := Function.update system.tasks index task } :=
  inv.update hindex howned (inv.stored.quiet rfl Iff.rfl hwritten hremoves) id
    fun h => absurd h hremoved

/-- **A current step keeps the invariant.** -/
theorem Inv.advance (inv : Inv calls system) (hindex : index < calls.length)
    (hcurrent : Current system index) : Inv calls (system.advance index) := by
  cases htask : system.tasks index with
  | appendLoad call =>
      cases hconversation : system.db.conversation with
      | none =>
          simp only [System.advance, htask, step, hconversation, settle]
          exact inv.read hindex (by simp [Task.call?]) (by rw [htask]; rfl) (by rw [htask]; rfl)
            nofun
      | some loaded =>
          simp only [System.advance, htask, step, hconversation, settle]
          split
          · exact inv.read hindex (by simp [Task.call?, htask]) (by rw [htask]; rfl)
              (by rw [htask]; rfl) nofun
          · exact inv.read hindex (by simp [Task.call?, htask]) (by rw [htask]; rfl)
              (by rw [htask]; rfl) nofun
  | appendAsk call loaded =>
      simp only [System.advance, htask, step, settle]
      exact inv.read hindex (by simp [Task.call?, htask]) (by rw [htask]; rfl) (by rw [htask]; rfl)
        nofun
  | appendWrite call loaded first =>
      simp only [System.advance, htask, step, settle]
      exact inv.update hindex (by simp [Task.call?, htask]) (inv.stored.write htask) id nofun
  | appendUpsert call loaded first =>
      rw [Current, htask] at hcurrent
      obtain ⟨now, hnow, -⟩ := hcurrent
      simp only [System.advance, htask, step, settle]
      exact inv.update hindex (by simp [Task.call?]) (inv.stored.settle htask (by simp [hnow]))
        (fun hnone => absurd (hnow.symm.trans hnone) nofun) nofun
  | setLoad call =>
      cases hconversation : system.db.conversation with
      | none =>
          simp only [System.advance, htask, step, hconversation, settle]
          exact inv.read hindex (by simp [Task.call?]) (by rw [htask]; rfl) (by rw [htask]; rfl)
            nofun
      | some loaded =>
          simp only [System.advance, htask, step, hconversation, settle]
          exact inv.read hindex (by simp [Task.call?, htask]) (by rw [htask]; rfl)
            (by rw [htask]; rfl) nofun
  | setUpsert call loaded =>
      rw [Current, htask] at hcurrent
      obtain ⟨now, hnow, -⟩ := hcurrent
      simp only [System.advance, htask, step, settle]
      exact inv.update hindex (by simp [Task.call?])
        (inv.stored.quiet rfl (by simp [hnow]) (by rw [htask]; rfl) (by rw [htask]; rfl))
        (fun hnone => absurd (hnow.symm.trans hnone) nofun) nofun
  | setReload written =>
      rw [Current, htask] at hcurrent
      simp only [System.advance, htask, step, hcurrent, settle]
      exact inv.read hindex (by simp [Task.call?]) (by rw [htask]; rfl) (by rw [htask]; rfl) nofun
  | setMessages loaded =>
      simp only [System.advance, htask, step, settle]
      exact inv.read hindex (by simp [Task.call?]) (by rw [htask]; rfl) (by rw [htask]; rfl) nofun
  | deleteLoad =>
      cases hconversation : system.db.conversation with
      | none =>
          simp only [System.advance, htask, step, hconversation, settle]
          exact inv.read hindex (by simp [Task.call?]) (by rw [htask]; rfl) (by rw [htask]; rfl)
            nofun
      | some loaded =>
          simp only [System.advance, htask, step, hconversation, settle]
          exact inv.read hindex (by simp [Task.call?, htask]) (by rw [htask]; rfl)
            (by rw [htask]; rfl) nofun
  | deleteMessages =>
      simp only [System.advance, htask, step, settle]
      exact inv.update hindex (by simp [Task.call?, htask]) inv.stored.clear id nofun
  | deleteRecord =>
      rw [Current, htask] at hcurrent
      simp only [System.advance, htask, step, settle]
      exact inv.update hindex (by simp [Task.call?]) (inv.stored.remove htask hcurrent.2 _)
        (fun _ => rfl) fun _ => rfl
  | done answer =>
      simp only [System.advance, htask, step, settle]
      rw [← htask, Function.update_eq_self]
      exact inv

theorem promise_advance (hindex : index < calls.length) :
    promise calls (system.advance index) = Function.update (promise calls system) index
      (promised ((system.advance index).seen index) (step (system.tasks index) system.db).1) := by
  funext other
  by_cases hother : other = index
  · rw [hother, Function.update_self, promise, if_pos hindex, System.advance]
    simp only [Function.update_self]
  · have hseen : (system.advance index).seen other = system.seen other := by
      simp only [System.advance]
      cases system.tasks index <;> first | rfl | exact Function.update_of_ne hother _ _
    rw [Function.update_of_ne hother, promise, promise, hseen]
    simp only [System.advance, Function.update_of_ne hother]

/-- A step that leaves the record, the settled messages and the promise of its call. -/
theorem effect_of_quiet (hindex : index < calls.length)
    (habstract : abstract (system.advance index) = abstract system)
    (hpromised : promised ((system.advance index).seen index)
      (step (system.tasks index) system.db).1 =
        promised (system.seen index) (system.tasks index)) :
    Effect Alone calls abstract (promise calls) system (system.advance index) := by
  refine .inl ⟨habstract, ?_⟩
  rw [promise_advance hindex, hpromised, Function.update_eq_iff]
  exact ⟨by rw [promise, if_pos hindex], fun _ _ => rfl⟩

/-- A step at which its call takes effect. -/
theorem effect_of_point (inv : Inv calls system) (hindex : index < calls.length) (call : Call)
    (answer : Answer) (hcall : (system.tasks index).call? = some call)
    (halone : Alone call (abstract system) answer (abstract (system.advance index)))
    (hpromised : promised ((system.advance index).seen index)
      (step (system.tasks index) system.db).1 = some answer) :
    Effect Alone calls abstract (promise calls) system (system.advance index) := by
  refine .inr ⟨index, call, answer, inv.owned index call hcall, ?_, halone, ?_⟩
  · rw [promise, if_pos hindex]
    exact promised_eq_none (by simp [hcall])
  · rw [promise_advance hindex, hpromised]

/-- A call that finds no conversation takes effect when it loads. -/
theorem effect_of_missing (inv : Inv calls system) (hindex : index < calls.length) (call : Call)
    (htask : system.tasks index = call.task) (hnone : system.db.conversation = none) :
    Effect Alone calls abstract (promise calls) system (system.advance index) := by
  have halone := alone_missing call system.settled
  refine effect_of_point inv hindex call call.missing
    (by rw [htask]; cases call <;> rfl) ?_ ?_
  · have hafter : abstract (system.advance index) = ⟨none, system.settled⟩ := by
      cases call <;> simp [abstract, System.advance, htask, Call.task, step, settle, hnone]
    rw [hafter, abstract, hnone]
    exact halone
  · cases call <;> simp [htask, Call.task, Call.missing, step, hnone, promised]

/-- **A current step has at most the effect of one whole call.** -/
theorem effect_of_current (inv : Inv calls system) (hindex : index < calls.length)
    (hcurrent : Current system index) :
    Effect Alone calls abstract (promise calls) system (system.advance index) := by
  cases htask : system.tasks index with
  | appendLoad call =>
      cases hconversation : system.db.conversation with
      | none => exact effect_of_missing inv hindex (.append call) htask hconversation
      | some loaded =>
          refine effect_of_quiet hindex ?_ ?_
          · by_cases hasks : call.asks <;>
              simp [abstract, System.advance, htask, step, settle, hconversation, hasks]
          · by_cases hasks : call.asks <;> simp [htask, step, hconversation, hasks, promised]
  | appendAsk call loaded =>
      exact effect_of_quiet hindex (by simp [abstract, System.advance, htask, step, settle])
        (by simp [htask, step, promised])
  | appendWrite call loaded first =>
      exact effect_of_quiet hindex (by simp [abstract, System.advance, htask, step, settle])
        (by simp [htask, step, promised])
  | appendUpsert call loaded first =>
      rw [Current, htask] at hcurrent
      obtain ⟨now, hnow, hwrites⟩ := hcurrent
      refine effect_of_point inv hindex (.append call) (.message call.message)
        (by rw [htask]; rfl) ?_ (by simp [htask, step, promised])
      have halone := alone_append call now system.settled
      simpa [abstract, System.advance, htask, step, settle, hnow, hwrites] using halone
  | setLoad call =>
      cases hconversation : system.db.conversation with
      | none => exact effect_of_missing inv hindex (.setActive call) htask hconversation
      | some loaded =>
          exact effect_of_quiet hindex
            (by simp [abstract, System.advance, htask, step, settle, hconversation])
            (by simp [htask, step, hconversation, promised])
  | setUpsert call loaded =>
      rw [Current, htask] at hcurrent
      obtain ⟨now, hnow, hwrites⟩ := hcurrent
      refine effect_of_point inv hindex (.setActive call)
        (.transcript (call.upsert now) system.settled)
        (by rw [htask]; rfl) ?_ (by simp [System.advance, htask, step, promised, hwrites])
      have halone := alone_setActive call now system.settled
      simpa [abstract, System.advance, htask, step, settle, hnow, hwrites] using halone
  | setReload written =>
      rw [Current, htask] at hcurrent
      exact effect_of_quiet hindex
        (by simp [abstract, System.advance, htask, step, settle, hcurrent])
        (by simp [System.advance, htask, step, hcurrent, promised])
  | setMessages loaded =>
      rw [Current, htask] at hcurrent
      exact effect_of_quiet hindex (by simp [abstract, System.advance, htask, step, settle])
        (by simp [htask, step, promised, hcurrent])
  | deleteLoad =>
      cases hconversation : system.db.conversation with
      | none => exact effect_of_missing inv hindex .delete htask hconversation
      | some loaded =>
          exact effect_of_quiet hindex
            (by simp [abstract, System.advance, htask, step, settle, hconversation])
            (by simp [htask, step, hconversation, promised])
  | deleteMessages =>
      exact effect_of_quiet hindex (by simp [abstract, System.advance, htask, step, settle])
        (by simp [htask, step, promised])
  | deleteRecord =>
      rw [Current, htask] at hcurrent
      obtain ⟨now, hnow⟩ := Option.ne_none_iff_exists'.1 hcurrent.1
      refine effect_of_point inv hindex .delete (.deleted true)
        (by rw [htask]; rfl) ?_ (by simp [htask, step, promised])
      have halone := alone_delete now system.settled
      simpa [abstract, System.advance, htask, step, settle, hnow] using halone
  | done answer =>
      exact effect_of_quiet hindex (by simp [abstract, System.advance, htask, step, settle])
        (by simp [htask, step, promised])

/-! ### Runs -/

theorem inv_of_run {db : Db} (h : db.conversation ≠ none)
    (hrun : Relation.ReflTransGen (CurrentStep calls) (start db calls) system) :
    Inv calls system := by
  induction hrun with
  | refl => exact inv_start h
  | tail _ hstep ih =>
      obtain ⟨index, hindex, -, hcurrent, rfl⟩ := hstep
      exact ih.advance hindex hcurrent

/-- When every call has returned, the stored messages are the settled ones. -/
theorem Inv.messages_settled (inv : Inv calls system) (h : Complete calls system) :
    system.db.messages = system.settled := by
  have hdone : ∀ index, ∃ answer, system.tasks index = .done answer := by
    intro index
    by_cases hindex : index < calls.length
    · exact h index hindex
    · exact inv.outside index (by omega)
  have hpending : ∀ message, ¬Pending system.tasks message := by
    rintro message ⟨index, hindex⟩
    obtain ⟨answer, hanswer⟩ := hdone index
    rw [hanswer] at hindex
    exact absurd hindex nofun
  refine Finset.Subset.antisymm (fun message hmem => ?_) (fun message hmem => ?_)
  · exact (inv.stored.known message hmem).resolve_right (hpending message)
  · by_cases hgone : system.db.conversation = none
    · rw [inv.stored.gone hgone] at hmem
      exact absurd hmem (Finset.notMem_empty message)
    · refine inv.stored.complete hgone (fun index => ?_) message (.inl hmem)
      obtain ⟨answer, hanswer⟩ := hdone index
      rw [hanswer]
      rfl

/-- The calls have a sequential order: each call once, with the answers they gave and
the state they left. -/
def Serializable (db : Db) (calls : List Call) (system : System) : Prop :=
  ∃ log : List (Nat × Answer), Sequential Alone calls log db system.db ∧
    (log.map Prod.fst).Perm (List.range calls.length) ∧
    ∀ index answer, (index, answer) ∈ log →
      system.tasks index = .done answer

/-- The next step of an append keeps the stored selection. -/
def KeepsSelection (system : System) (index : Nat) : Prop :=
  ∀ call, (system.tasks index).call? = some (.append call) →
    (system.advance index).db.conversation.map Conversation.active_embodiment_id =
      system.db.conversation.map Conversation.active_embodiment_id

theorem serializable_of_complete {db : Db} (h : db.conversation ≠ none)
    (hrun : Relation.ReflTransGen (CurrentStep calls) (start db calls) system)
    (hcomplete : Complete calls system) : Serializable db calls system := by
  have hinitial : ∀ index, promise calls (start db calls) index = none := by
    intro index
    rw [promise]
    split
    case isTrue hindex =>
      refine promised_eq_none ?_
      simp only [start, List.getElem?_eq_getElem hindex, Option.map_some, Option.getD_some]
      cases calls[index] <;> rfl
    case isFalse => rfl
  have heffect : ∀ s t, Relation.ReflTransGen (CurrentStep calls) (start db calls) s →
      CurrentStep calls s t → Effect Alone calls abstract (promise calls) s t := by
    rintro s _ hs ⟨index, hindex, -, hcurrent, rfl⟩
    exact effect_of_current (inv_of_run h hs) hindex hcurrent
  obtain ⟨log, hlog, hnodup, hpromised⟩ := sequential_of_effects hinitial heffect hrun
  have hanswers : ∀ index answer, (index, answer) ∈ log ↔
      index < calls.length ∧ system.tasks index = .done answer := by
    intro index answer
    rw [hpromised, promise]
    by_cases hindex : index < calls.length
    · obtain ⟨given, hgiven⟩ := hcomplete index hindex
      simp [hindex, hgiven, promised]
    · simp [hindex]
  refine ⟨log, ?_, ?_, fun index answer hmem => ((hanswers index answer).1 hmem).2⟩
  · have hfinal : abstract system = system.db := by
      rw [abstract, ← (inv_of_run h hrun).messages_settled hcomplete]
    rw [← hfinal]
    exact hlog
  · refine (List.perm_ext_iff_of_nodup hnodup List.nodup_range).2 fun index => ?_
    rw [List.mem_range]
    constructor
    · intro hmem
      obtain ⟨⟨_, answer⟩, hentry, rfl⟩ := List.mem_map.1 hmem
      exact ((hanswers _ answer).1 hentry).1
    · intro hindex
      obtain ⟨answer, hanswer⟩ := hcomplete index hindex
      exact List.mem_map.2 ⟨(index, answer), (hanswers _ _).2 ⟨hindex, hanswer⟩, rfl⟩

theorem keepsSelection_of_current (hcurrent : Current system index) :
    KeepsSelection system index := by
  intro call hcall
  cases htask : system.tasks index with
  | appendLoad call =>
      cases hconversation : system.db.conversation with
      | none => simp [System.advance, htask, step, hconversation]
      | some loaded =>
          by_cases hasks : call.asks <;> simp [System.advance, htask, step, hconversation, hasks]
  | appendUpsert call loaded first =>
      rw [Current, htask] at hcurrent
      obtain ⟨now, hnow, hwrites⟩ := hcurrent
      have hselection := congrArg Conversation.active_embodiment_id hwrites
      simpa [System.advance, htask, step, hnow, Append.upsert] using hselection
  | appendAsk | appendWrite => simp [System.advance, htask, step]
  | setLoad | setUpsert | setReload | setMessages | deleteLoad | deleteMessages | deleteRecord
  | done => simp [htask, Task.call?] at hcall

/-- **Runs of current steps are serializable.**  Any number of appends, selections
and deletions of one existing conversation run interleaved at their database calls;
every step is current.  When all have returned, some sequential order of the calls
gives the same answers, record and messages.  At every point of the run, the next
step of an append keeps the stored selection, and the conversation is gone once a
deletion has returned true. -/
theorem current_runs_serializable (db : Db) (calls : List Call) (h : db.conversation ≠ none)
    (system : System)
    (hrun : Relation.ReflTransGen (CurrentStep calls) (start db calls) system) :
    (Complete calls system → Serializable db calls system) ∧
    (∀ index < calls.length, Current system index → KeepsSelection system index) ∧
    (∀ index < calls.length, system.tasks index = .done (.deleted true) →
      system.db.conversation = none) :=
  ⟨serializable_of_complete h hrun, fun _ _ hcurrent => keepsSelection_of_current hcurrent,
    (inv_of_run h hrun).removed⟩

/-! ### Two runs of one append and one selection -/

/-- The calls make their database calls in the given order. -/
def schedule (system : System) (order : List Nat) : System := order.foldl System.advance system

/-- A schedule runs when each of its steps does. -/
theorem run_of_schedule {R : System → System → Prop} {order : List Nat}
    (h : ∀ n (hn : n < order.length), R (schedule system (order.take n))
      ((schedule system (order.take n)).advance order[n])) :
    Relation.ReflTransGen R system (schedule system order) := by
  induction order using List.reverseRecOn with
  | nil => exact .refl
  | append_singleton order index ih =>
      have hlast := h order.length (by simp)
      rw [List.take_left' rfl, List.getElem_append_right le_rfl] at hlast
      have hrun : Relation.ReflTransGen R system (schedule system order) := by
        refine ih fun n hn => ?_
        have hstep := h n (by rw [List.length_append]; omega)
        rwa [List.take_append_of_le_length hn.le, List.getElem_append_left hn] at hstep
      have hsplit : schedule system (order ++ [index]) = (schedule system order).advance index := by
        rw [schedule, List.foldl_append]
        rfl
      rw [hsplit]
      exact hrun.tail (by simpa using hlast)

/-- A conversation about to be used. -/
def emptyDb : Db where
  conversation := some ⟨some "agent", none, some "model", none, some "en", none, "", some "t0", "t0"⟩
  messages := ∅

def helloCall : Append := ⟨"user", "hello", some true, "m1", "t1"⟩

def selectCall : SetActive := ⟨some "embodiment:desk", "t2"⟩

/-- The append runs to its end before the selection begins. -/
def orderly : System :=
  schedule (start emptyDb [.append helloCall, .setActive selectCall]) [0, 0, 0, 1, 1, 1, 1]

theorem orderly_run : Relation.ReflTransGen
    (CurrentStep [.append helloCall, .setActive selectCall])
    (start emptyDb [.append helloCall, .setActive selectCall]) orderly := by
  refine run_of_schedule fun n hn => ?_
  match n, hn with
  | 0, _ | 1, _ => exact ⟨0, by decide, rfl, trivial, rfl⟩
  | 2, _ => exact ⟨0, by decide, rfl, ⟨_, rfl, rfl⟩, rfl⟩
  | 3, _ => exact ⟨1, by decide, rfl, trivial, rfl⟩
  | 4, _ => exact ⟨1, by decide, rfl, ⟨_, rfl, rfl⟩, rfl⟩
  | 5, _ | 6, _ => exact ⟨1, by decide, rfl, rfl, rfl⟩

theorem orderly_serializable :
    Serializable emptyDb [.append helloCall, .setActive selectCall] orderly :=
  (current_runs_serializable emptyDb [.append helloCall, .setActive selectCall] nofun orderly
    orderly_run).1 fun index hindex => by
      match index, hindex with
      | 0, _ => exact ⟨_, rfl⟩
      | 1, _ => exact ⟨_, rfl⟩

/-- The append loads before the selection and writes after it. -/
def overwritten : System :=
  schedule (start emptyDb [.append helloCall, .setActive selectCall]) [0, 1, 1, 1, 1, 0, 0]

theorem overwritten_run : Relation.ReflTransGen
    (Step [.append helloCall, .setActive selectCall])
    (start emptyDb [.append helloCall, .setActive selectCall]) overwritten := by
  refine run_of_schedule fun n hn => ?_
  match n, hn with
  | 0, _ | 5, _ | 6, _ => exact ⟨0, by decide, rfl, rfl⟩
  | 1, _ | 2, _ | 3, _ | 4, _ => exact ⟨1, by decide, rfl, rfl⟩

/-- A call alone has one outcome. -/
theorem Alone.unique {call : Call} {db after after' : Db} {answer answer' : Answer}
    (h : Alone call db answer after) (h' : Alone call db answer' after') : after = after' :=
  congrArg Prod.snd (h.symm.trans h')

/-- The selection is lost: no order of the two calls leaves the record without it. -/
theorem overwritten_not_serializable : ¬∀ db calls system, db.conversation ≠ none →
    Relation.ReflTransGen (Step calls) (start db calls) system → Complete calls system →
      Serializable db calls system := by
  intro h
  obtain ⟨log, hlog, hperm, -⟩ := h emptyDb [.append helloCall, .setActive selectCall] overwritten
    nofun overwritten_run fun index hindex => by
      match index, hindex with
      | 0, _ => exact ⟨_, rfl⟩
      | 1, _ => exact ⟨_, rfl⟩
  obtain ⟨⟨i, a⟩, ⟨j, b⟩, rfl⟩ := List.length_eq_two.1 ((List.length_map _).symm.trans hperm.length_eq)
  obtain ⟨last, between, hlog, hlast, hlast_alone⟩ :=
    @Sequential.last_call _ _ _ _ _ [(i, a)] _ _ _ _ hlog
  obtain ⟨first, before, hlog, hfirst, hfirst_alone⟩ := @Sequential.last_call _ _ _ _ _ [] _ _ _ _ hlog
  have hbefore := hlog.eq_of_nil
  have hindices : (i = 0 ∧ j = 1) ∨ (i = 1 ∧ j = 0) := by
    have hmem := fun k => @List.Perm.mem_iff _ k _ _ hperm
    have h0 := hmem 0
    have h1 := hmem 1
    simp at h0 h1
    omega
  have hlost : overwritten.db.conversation.map Conversation.active_embodiment_id = some none := rfl
  subst hbefore
  rcases hindices with ⟨rfl, rfl⟩ | ⟨rfl, rfl⟩
  · obtain rfl := Option.some.inj hfirst
    obtain rfl := Option.some.inj hlast
    have hbetween := hfirst_alone.unique (alone_append helloCall _ ∅)
    rw [hbetween] at hlast_alone
    have hdb := hlast_alone.unique (alone_setActive selectCall _ _)
    rw [hdb] at hlost
    exact absurd hlost (by decide)
  · obtain rfl := Option.some.inj hfirst
    obtain rfl := Option.some.inj hlast
    have hbetween := hfirst_alone.unique (alone_setActive selectCall _ ∅)
    rw [hbetween] at hlast_alone
    have hdb := hlast_alone.unique (alone_append helloCall _ _)
    rw [hdb] at hlost
    exact absurd hlost (by decide)

end SurrealConversationStore
end HomeCortex
