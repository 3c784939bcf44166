/-
# Where texts are posted

Whatever the interleaving, a text that the user submits is posted at most once, and to the
conversation that was shown when it was submitted, or to the one that was then being made
(`accounted_of_runs`).  A step that neither submits nor posts leaves the account as it is
(`Accounted.keep`); most of them do not touch what it reads (`ledger`).
-/

import HomeCortex.Gui.Coherence
import HomeCortex.Library.Table

namespace HomeCortex
namespace Gui
namespace Client

/-- The states of the page in any run at all. -/
inductive Runs : Client → Prop
  | start : Runs start
  | step {c c' : Client} {e : Event} (h : Runs c) (hstep : c.step e = some c') : Runs c'

end Client

/-- The conversation is the one that was shown, or that the promise has come to. -/
def Meant.Is (settled : List (Nat × Creation)) (conversationId : String) : Meant → Prop
  | .active id => id = conversationId
  | .promised promise => (promise, Creation.resolved conversationId) ∈ settled

namespace Client

/-- The submission of the text that `send` is about to post. -/
def Awaits (submitted : List Submission) (s : Sending) (promise : Nat) : Prop :=
  ∃ submission ∈ submitted, submission.send = s.send ∧ submission.text = s.text ∧
    submission.meant = .promised promise

/-- Every text posted was submitted, once, and went where it was meant to go. -/
structure Accounted (c : Client) : Prop where
  meant : ∀ post ∈ c.posts, ∃ submission ∈ c.submitted, submission.send = post.send ∧
    submission.text = post.text ∧ submission.meant.Is c.settled post.conversationId
  once : (c.posts.map Post.send).Nodup
  sends : ∀ submission ∈ c.submitted, submission.send < c.sends
  awaiting : ∀ s, c.sending = some s → ∀ promise, s.phase = .awaiting promise →
    Awaits c.submitted s promise ∧ s.send ∉ c.posts.map Post.send

variable {c c' : Client}

/-- A step that posts nothing and submits nothing. -/
theorem Accounted.keep (h : c.Accounted) (hposts : c'.posts = c.posts)
    (hsubmitted : c'.submitted = c.submitted) (hsends : c'.sends = c.sends)
    (hsettled : c.settled ⊆ c'.settled)
    (hsending : ∀ s, c'.sending = some s → ∀ promise, s.phase = .awaiting promise →
      c.sending = some s) : c'.Accounted where
  meant post hpost := by
    obtain ⟨submission, hmem, hsend, htext, hmeant⟩ := h.meant post (hposts ▸ hpost)
    refine ⟨submission, hsubmitted ▸ hmem, hsend, htext, ?_⟩
    cases hcase : submission.meant with
    | active id => rwa [hcase] at hmeant
    | promised promise =>
        rw [hcase] at hmeant
        exact hsettled hmeant
  once := hposts ▸ h.once
  sends submission hmem := hsends ▸ h.sends submission (hsubmitted ▸ hmem)
  awaiting s hs promise hphase := by
    rw [hposts, hsubmitted]
    exact h.awaiting s (hsending s hs promise hphase) promise hphase

/-- What the account reads. -/
def ledger (c : Client) :
    List Post × List Submission × Nat × List (Nat × Creation) × Option Sending :=
  (c.posts, c.submitted, c.sends, c.settled, c.sending)

theorem Accounted.of_ledger (h : c.Accounted) (heq : c'.ledger = c.ledger) : c'.Accounted := by
  simp only [ledger, Prod.mk.injEq] at heq
  obtain ⟨hposts, hsubmitted, hsends, hsettled, hsending⟩ := heq
  exact h.keep hposts hsubmitted hsends (hsettled ▸ List.Subset.refl _)
    (fun s hs _ _ => hsending ▸ hs)

theorem ledger_ensureConversation (c : Client) : c.ensureConversation.ledger = c.ledger := by
  rw [Client.ensureConversation, Client.ensureCreating]
  split
  · rfl
  · cases c.creating <;> rfl

theorem ledger_startNewChat (c : Client) : c.startNewChat.ledger = c.ledger :=
  ledger_ensureConversation _

theorem ledger_changeModel (c : Client) (next : String) :
    (c.changeModel next).ledger = c.ledger := by
  rw [Client.changeModel]
  split
  · rfl
  · exact ledger_ensureConversation _

theorem ledger_created (c : Client) (startedFor : String) (conversation : Conversation) :
    (c.created startedFor conversation).ledger = c.ledger := by
  rw [Client.created]
  split <;> rfl

theorem ledger_setLastAssistant (c : Client) (k : Nat) (fresh content : String) :
    (c.setLastAssistant k fresh content).ledger = c.ledger := by
  rw [setLastAssistant_frame]
  rfl

theorem ledger_workspaceLoaded (c : Client) (models : List Model)
    (conversations : List ConversationSummary) (next : AfterLoad) :
    (c.workspaceLoaded models conversations next).ledger = c.ledger := by
  rw [Client.workspaceLoaded.eq_def]
  cases next with
  | newChat => exact ledger_startNewChat _
  | openFirst =>
      cases conversations.head? with
      | none => exact ledger_startNewChat _
      | some summary => rfl

theorem ledger_chosen (c : Client) (id : String) (updated : Conversation) :
    (c.chosen id updated).ledger = c.ledger := by
  rw [Client.chosen]
  split <;> rfl

theorem ledger_removed (c : Client) (id : String) : (c.removed id).ledger = c.ledger := by
  rw [Client.removed]
  split <;> rfl

/-- The end of a message under way. -/
theorem Accounted.of_posts (h : c.Accounted) (hposts : c'.posts = c.posts)
    (hsubmitted : c'.submitted = c.submitted) (hsends : c'.sends = c.sends)
    (hsettled : c'.settled = c.settled)
    (hsending : ∀ s, c'.sending = some s → ∀ promise, s.phase ≠ .awaiting promise) :
    c'.Accounted :=
  h.keep hposts hsubmitted hsends (hsettled ▸ List.Subset.refl _)
    fun s hs promise hphase => absurd hphase (hsending s hs promise)

theorem Accounted.fail (h : c.Accounted) (k : Nat) (fresh message : String) :
    (c.fail k fresh message).Accounted := by
  have hledger := ledger_setLastAssistant { c with sendError := message } k fresh message
  simp only [ledger, Prod.mk.injEq] at hledger
  exact h.of_posts hledger.1 hledger.2.1 hledger.2.2.1 hledger.2.2.2.1 fun s hs => by cases hs

theorem Accounted.streamed (h : c.Accounted) (s : Sending) (id reply fresh : String) :
    (c.streamed s id reply fresh).Accounted := by
  have hledger := ledger_setLastAssistant (c.dropFrame s.send) s.send fresh reply
  simp only [ledger, Prod.mk.injEq] at hledger
  exact h.of_posts hledger.1 hledger.2.1 hledger.2.2.1 hledger.2.2.2.1
    fun _ hs _ hphase => by cases Option.some.inj hs; cases hphase

theorem ledger_reload (c : Client) (s : Sending) (reply fresh : String)
    (conversation : Conversation) : (c.reload s reply fresh conversation).ledger = c.ledger := by
  rw [Client.reload]
  split
  · rfl
  · split
    · exact ledger_setLastAssistant _ _ _ _
    · rfl

theorem Accounted.finish (h : c.Accounted) (s : Sending) (reply fresh : String)
    (conversation : Conversation) : (c.finish s reply fresh conversation).Accounted := by
  have hledger := ledger_reload (c.hear conversation) s reply fresh conversation
  simp only [ledger, Prod.mk.injEq] at hledger
  exact h.of_posts hledger.1 hledger.2.1 hledger.2.2.1 hledger.2.2.2.1 fun _ hs => by cases hs

/-- The text that was waiting for its conversation is posted to it. -/
theorem Accounted.post (h : c.Accounted) {k : Nat} {text id : String} {promise : Nat}
    (hs : c.sending = some ⟨k, text, .awaiting promise⟩)
    (hsettled : (promise, Creation.resolved id) ∈ c.settled) (activeId : Option String) :
    ({ c with activeId := activeId }.post k text id).Accounted := by
  obtain ⟨⟨submission, hmem, hsend, htext, hmeant⟩, hnew⟩ := h.awaiting _ hs promise rfl
  refine ⟨fun post hpost => ?_, List.nodup_cons.2 ⟨hnew, h.once⟩, h.sends, fun s hs' => ?_⟩
  · rcases List.mem_cons.1 hpost with rfl | hpost
    · exact ⟨submission, hmem, hsend, htext, by rw [hmeant]; exact hsettled⟩
    · exact h.meant post hpost
  · cases Option.some.inj hs'
    exact fun _ hphase => by cases hphase

theorem Accounted.send (h : c.Accounted) (text userId assistantId : String) :
    (c.send text userId assistantId).Accounted := by
  have hfresh : c.sends ∉ c.posts.map Post.send := by
    intro hmem
    obtain ⟨post, hpost, hsend⟩ := List.mem_map.1 hmem
    obtain ⟨submission, hsubmitted, hsame, -, -⟩ := h.meant post hpost
    have hlt := h.sends submission hsubmitted
    omega
  have hsends : ∀ (meant : Meant), ∀ submission ∈ (⟨c.sends, text, meant⟩ : Submission) ::
      c.submitted, submission.send < c.sends + 1 := by
    intro meant submission hmem
    rcases List.mem_cons.1 hmem with rfl | hmem
    · exact Nat.lt_succ_self _
    · exact (h.sends submission hmem).trans (Nat.lt_succ_self _)
  have hmeant : ∀ (meant : Meant), ∀ post ∈ c.posts, ∃ submission ∈
      (⟨c.sends, text, meant⟩ : Submission) :: c.submitted, submission.send = post.send ∧
        submission.text = post.text ∧ submission.meant.Is c.settled post.conversationId := by
    intro meant post hpost
    obtain ⟨submission, hmem, hsame⟩ := h.meant post hpost
    exact ⟨submission, List.mem_cons_of_mem _ hmem, hsame⟩
  cases hactive : c.activeId with
  | some id =>
      simp only [Client.send, Client.typed, Client.submit, hactive, Client.post]
      refine ⟨fun post hpost => ?_, List.nodup_cons.2 ⟨hfresh, h.once⟩, hsends _, fun s hs => ?_⟩
      · rcases List.mem_cons.1 hpost with rfl | hpost
        · exact ⟨_, List.mem_cons_self, rfl, rfl, rfl⟩
        · exact hmeant _ post hpost
      · cases Option.some.inj hs
        exact fun _ hphase => by cases hphase
  | none =>
      have hledger : (c.typed text userId assistantId).ensureCreating.1.ledger
          = (c.typed text userId assistantId).ledger := by
        rw [Client.ensureCreating]
        cases (c.typed text userId assistantId).creating <;> rfl
      simp only [ledger, Prod.mk.injEq] at hledger
      obtain ⟨hposts, -, hsent, hsettled, -⟩ := hledger
      have hnone : (c.typed text userId assistantId).activeId = none := hactive
      simp only [Client.send, Client.submit, hnone]
      refine ⟨?_, ?_, ?_, ?_⟩
      · dsimp only
        rw [hposts, hsettled]
        exact hmeant _
      · dsimp only
        rw [hposts]
        exact h.once
      · dsimp only
        rw [hsent]
        exact hsends _
      · intro s hs promise hphase
        cases Option.some.inj hs
        cases hphase
        dsimp only
        rw [hposts]
        exact ⟨⟨_, List.mem_cons_self, rfl, rfl, rfl⟩, hfresh⟩

theorem Accounted.answer {α : Type} (h : c.Accounted) {task : Task} {reply : Except String α}
    {f : Client → α → Client} (hf : ∀ value, (f (c.done task) value).ledger = c.ledger)
    (hstep : c.answer task reply f = some c') : c'.Accounted := by
  rw [Client.answer.eq_def] at hstep
  split at hstep
  · cases reply with
    | ok value => exact Option.some.inj hstep ▸ h.of_ledger (hf value)
    | error message => exact Option.some.inj hstep ▸ h.of_ledger rfl
  · cases hstep

theorem Accounted.step (h : c.Accounted) {e : Event} (hstep : c.step e = some c') :
    c'.Accounted := by
  cases e with
  | send text userId assistantId =>
      rw [Client.step] at hstep
      split at hstep
      · cases hstep
      · exact Option.some.inj hstep ▸ h.send text userId assistantId
  | startNewChat => exact Option.some.inj hstep ▸ h.of_ledger (ledger_startNewChat c)
  | selectChat id => exact Option.some.inj hstep ▸ h.of_ledger rfl
  | removeChat id => exact Option.some.inj hstep ▸ h.of_ledger rfl
  | changeModel next => exact Option.some.inj hstep ▸ h.of_ledger (ledger_changeModel c next)
  | selectEmbodiment next =>
      rw [Client.step] at hstep
      split at hstep
      · exact Option.some.inj hstep ▸ h
      · split at hstep
        · exact Option.some.inj hstep ▸ h
        · exact Option.some.inj hstep ▸ h.of_ledger rfl
  | loadWorkspace next => exact Option.some.inj hstep ▸ h.of_ledger rfl
  | signOut => exact Option.some.inj hstep ▸ h.of_ledger rfl
  | created promise startedFor reply =>
      rw [Client.step] at hstep
      split at hstep
      · cases reply with
        | ok conversation =>
            exact Option.some.inj hstep ▸ h.of_ledger
              (ledger_created (c.done (.creating promise startedFor)) startedFor conversation)
        | error message => exact Option.some.inj hstep ▸ h.of_ledger rfl
      · cases hstep
  | settled promise outcome =>
      rw [Client.step] at hstep
      split at hstep
      · exact Option.some.inj hstep ▸ h.keep rfl rfl rfl (List.subset_cons_self _ _)
          (fun _ hs _ _ => hs)
      · cases hstep
  | selected id reply =>
      rw [Client.step] at hstep
      exact h.answer (fun _ => rfl) hstep
  | removed id reply =>
      rw [Client.step] at hstep
      exact h.answer (fun _ => ledger_removed _ id) hstep
  | chosen conversationId reply =>
      rw [Client.step] at hstep
      split at hstep
      · cases reply with
        | ok updated =>
            exact Option.some.inj hstep ▸ h.of_ledger
              (ledger_chosen (c.done (.choosing conversationId)) conversationId updated)
        | error message =>
            dsimp only at hstep
            split at hstep <;> exact Option.some.inj hstep ▸ h.of_ledger rfl
      · cases hstep
  | workspace next reply =>
      rw [Client.step] at hstep
      exact h.answer (fun _ => ledger_workspaceLoaded _ _ _ next) hstep
  | signedOut reply =>
      rw [Client.step] at hstep
      exact h.answer (fun _ => rfl) hstep
  | resume fresh =>
      rw [Client.step] at hstep
      cases hs : c.sending with
      | none => simp [hs] at hstep
      | some s =>
          obtain ⟨k, text, phase⟩ := s
          cases phase with
          | streaming id reply => simp [hs] at hstep
          | latest id reply => simp [hs] at hstep
          | awaiting promise =>
              cases hsettled : c.settled.lookup promise with
              | none => simp [hs, hsettled] at hstep
              | some outcome =>
                  cases outcome with
                  | resolved id =>
                      simp only [hs, hsettled, Option.some.injEq] at hstep
                      exact hstep ▸ h.post hs (AList.mem_of_lookup_eq_some hsettled) _
                  | rejected message =>
                      simp only [hs, hsettled, Option.some.injEq] at hstep
                      exact hstep ▸ h.fail k fresh message
  | delta content =>
      rw [Client.step] at hstep
      cases hs : c.sending with
      | none => simp [hs] at hstep
      | some s =>
          obtain ⟨k, text, phase⟩ := s
          cases phase with
          | awaiting promise => simp [hs] at hstep
          | latest id reply => simp [hs] at hstep
          | streaming id reply =>
              simp only [hs, Option.some.injEq] at hstep
              exact hstep ▸ h.of_posts rfl rfl rfl rfl
                (fun _ hs' _ hphase => by cases Option.some.inj hs'; cases hphase)
  | streamed fresh outcome =>
      rw [Client.step] at hstep
      cases hs : c.sending with
      | none => simp [hs] at hstep
      | some s =>
          obtain ⟨k, text, phase⟩ := s
          cases phase with
          | awaiting promise => simp [hs] at hstep
          | latest id reply => simp [hs] at hstep
          | streaming id reply =>
              cases outcome with
              | ok _ =>
                  simp only [hs, Option.some.injEq] at hstep
                  exact hstep ▸ h.streamed _ id reply fresh
              | error message =>
                  simp only [hs, Option.some.injEq] at hstep
                  exact hstep ▸ h.fail k fresh message
  | latest fresh answer =>
      rw [Client.step] at hstep
      cases hs : c.sending with
      | none => simp [hs] at hstep
      | some s =>
          obtain ⟨k, text, phase⟩ := s
          cases phase with
          | awaiting promise => simp [hs] at hstep
          | streaming id reply => simp [hs] at hstep
          | latest id reply =>
              cases answer with
              | ok conversation =>
                  simp only [hs, Option.some.injEq] at hstep
                  exact hstep ▸ h.finish _ reply fresh conversation
              | error message =>
                  simp only [hs, Option.some.injEq] at hstep
                  exact hstep ▸ h.fail k fresh message
  | paint k fresh =>
      rw [Client.step] at hstep
      cases hframe : c.frames.find? (·.send == k) with
      | none => simp [hframe] at hstep
      | some frame =>
          simp only [hframe, Option.some.injEq] at hstep
          exact hstep ▸ h.of_ledger (ledger_setLastAssistant (c.dropFrame k) k fresh frame.reply)

/-- **Texts are posted once, and where they were meant to go.** -/
theorem accounted_of_runs (h : c.Runs) : c.Accounted := by
  induction h with
  | start =>
      exact ⟨fun _ hmem => (by cases hmem), List.nodup_nil, fun _ hmem => (by cases hmem),
        fun _ hs => (by cases hs)⟩
  | step _ hstep ih => exact ih.step hstep

theorem accounted_of_runs_first : ∃ c : Client, c.Runs ∧ c.posts.length = 1 ∧ c.Accounted := by
  have hopened : Runs _ := .step (e := .startNewChat) .start rfl
  have hsent : Runs _ := .step (e := .send "hi" "u" "v") hopened rfl
  have hcreated : Runs _ := .step (e := .created 0 "" (.ok blankChat)) hsent rfl
  have hsettled : Runs _ := .step (e := .settled 0 (.resolved "a")) hcreated rfl
  have hposted : Runs _ := .step (e := .resume "w") hsettled rfl
  exact ⟨_, hposted, rfl, accounted_of_runs hposted⟩

end Client

end Gui
end HomeCortex
