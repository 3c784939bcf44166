/-
# The browser does not mix conversations

What is shown of a conversation (`Shows`) was loaded from it or sent to it, and its body and its
agent are what the server reported for it.  Every function keeps this in any interleaving, as
long as what `send` still has to write finds its conversation on the screen (`InPlace`): unlike
`selectEmbodiment`, it does not look whether another one has been opened meanwhile.
-/

import HomeCortex.Gui.Client

namespace HomeCortex
namespace Gui

/-- The text of the message `send` was posted to the conversation. -/
def Posted (posts : List Post) (send : Nat) (conversationId : String) : Prop :=
  ∃ post ∈ posts, post.send = send ∧ post.conversationId = conversationId

/-- The conversation that a message under way was posted to. -/
def Phase.conversationId? : Phase → Option String
  | .awaiting _ => none
  | .streaming id _ => some id
  | .latest id _ => some id

/-- An entry was loaded from the conversation, or typed or streamed for a text posted to it. -/
inductive Entry.Belongs (heard : List Conversation) (posts : List Post) (id : String) :
    Entry → Prop
  | loaded {message : ChatMessage} {conversation : Conversation} (h : conversation ∈ heard)
      (hid : conversation.id = id) (hmessage : message ∈ conversation.messages.getD []) :
      Belongs heard posts id ⟨message, .loaded id⟩
  | sent {message : ChatMessage} {send : Nat} (h : Posted posts send id) :
      Belongs heard posts id ⟨message, .sent send⟩

theorem Posted.mono {posts posts' : List Post} {k : Nat} {id : String} (h : Posted posts k id)
    (hposts : posts ⊆ posts') : Posted posts' k id := by
  obtain ⟨post, hpost, hk, hid⟩ := h
  exact ⟨post, hposts hpost, hk, hid⟩

theorem Entry.Belongs.mono {heard heard' : List Conversation} {posts posts' : List Post}
    {id : String} {entry : Entry} (h : entry.Belongs heard posts id) (hheard : heard ⊆ heard')
    (hposts : posts ⊆ posts') : entry.Belongs heard' posts' id := by
  cases h with
  | loaded h hid hmessage => exact .loaded (hheard h) hid hmessage
  | sent h => exact .sent (h.mono hposts)

theorem Conversation.entries_belong {conversation : Conversation} {heard : List Conversation}
    {posts : List Post} (h : conversation ∈ heard) :
    ∀ entry ∈ conversation.entries, entry.Belongs heard posts conversation.id := by
  intro entry hentry
  obtain ⟨message, hmessage, rfl⟩ := List.mem_map.1 hentry
  exact .loaded h rfl hmessage

namespace Client

/-- What is shown is the conversation `id`. -/
structure Shows (c : Client) (id : String) : Prop where
  messages : ∀ entry ∈ c.messages, entry.Belongs c.heard c.posts id
  embodiment : ∃ conversation ∈ c.heard, conversation.id = id ∧
    c.activeEmbodimentId = conversation.active_embodiment_id
  agent : ∃ conversation ∈ c.heard, conversation.id = id ∧
    c.activeAgentId = conversation.agent_id ∧ c.activeAgentEntityId = conversation.agent_entity_id

/-- The conversation shown is coherent, and replies under way have their posts. -/
structure Coherent (c : Client) : Prop where
  shows_active : ∀ id, c.activeId = some id → c.Shows id
  sending : ∀ s, c.sending = some s → ∀ id, s.phase.conversationId? = some id →
    Posted c.posts s.send id
  frames : ∀ frame ∈ c.frames, Posted c.posts frame.send frame.conversationId

variable {c c' : Client}

/-! ### What keeps the coherence -/

/-- The same view, with more behind it. -/
theorem Shows.mono {id : String} (h : c.Shows id) (hmessages : c'.messages = c.messages)
    (hembodiment : c'.activeEmbodimentId = c.activeEmbodimentId)
    (hagent : c'.activeAgentId = c.activeAgentId)
    (hentity : c'.activeAgentEntityId = c.activeAgentEntityId) (hheard : c.heard ⊆ c'.heard)
    (hposts : c.posts ⊆ c'.posts) : c'.Shows id where
  messages entry hentry := (h.messages entry (hmessages ▸ hentry)).mono hheard hposts
  embodiment := by
    obtain ⟨conversation, hmem, hid, heq⟩ := h.embodiment
    exact ⟨conversation, hheard hmem, hid, hembodiment.trans heq⟩
  agent := by
    obtain ⟨conversation, hmem, hid, heq, heq'⟩ := h.agent
    exact ⟨conversation, hheard hmem, hid, hagent.trans heq, hentity.trans heq'⟩

/-- Fields beside the view of the conversation and the messages under way do not matter. -/
theorem Coherent.same (h : c.Coherent) (hactive : c'.activeId = c.activeId)
    (hmessages : c'.messages = c.messages)
    (hembodiment : c'.activeEmbodimentId = c.activeEmbodimentId)
    (hagent : c'.activeAgentId = c.activeAgentId)
    (hentity : c'.activeAgentEntityId = c.activeAgentEntityId) (hheard : c'.heard = c.heard)
    (hposts : c'.posts = c.posts) (hsending : c'.sending = c.sending)
    (hframes : c'.frames = c.frames) : c'.Coherent where
  shows_active id hid := (h.shows_active id (hactive ▸ hid)).mono hmessages hembodiment hagent
    hentity (hheard ▸ List.Subset.refl _) (hposts ▸ List.Subset.refl _)
  sending s hs := hposts ▸ h.sending s (hsending ▸ hs)
  frames frame hframe := hposts ▸ h.frames frame (hframes ▸ hframe)

theorem Coherent.begin (h : c.Coherent) (task : Task) : (c.begin task).Coherent :=
  h.same rfl rfl rfl rfl rfl rfl rfl rfl rfl

theorem Coherent.done (h : c.Coherent) (task : Task) : (c.done task).Coherent :=
  h.same rfl rfl rfl rfl rfl rfl rfl rfl rfl

theorem Coherent.hear (h : c.Coherent) (conversation : Conversation) :
    (c.hear conversation).Coherent :=
  ⟨fun id hid => (h.shows_active id hid).mono rfl rfl rfl rfl (List.subset_cons_self _ _)
    (fun _ h => h), h.sending, h.frames⟩

theorem Coherent.promoteConversation (h : c.Coherent) (conversation : Conversation) :
    (c.promoteConversation conversation).Coherent :=
  h.same rfl rfl rfl rfl rfl rfl rfl rfl rfl

theorem Coherent.clear (h : c.Coherent) : c.clear.Coherent :=
  ⟨fun _ hid => (by cases hid), h.sending, h.frames⟩

theorem Coherent.adopt (h : c.Coherent) {conversation : Conversation}
    (hheard : conversation ∈ c.heard) : (c.adopt conversation).Coherent where
  shows_active id hid := by
    cases Option.some.inj hid
    exact ⟨Conversation.entries_belong hheard, ⟨conversation, hheard, rfl, rfl⟩,
      ⟨conversation, hheard, rfl, rfl, rfl⟩⟩
  sending := h.sending
  frames := h.frames

theorem Coherent.ensureConversation (h : c.Coherent) : c.ensureConversation.Coherent := by
  rw [Client.ensureConversation, Client.ensureCreating]
  split
  · exact h
  · cases c.creating with
    | some promise => exact h
    | none => exact h.same rfl rfl rfl rfl rfl rfl rfl rfl rfl

theorem ensureCreating_frame (c : Client) : c.ensureCreating.1.activeId = c.activeId ∧
    c.ensureCreating.1.frames = c.frames ∧ c.ensureCreating.1.posts = c.posts := by
  rw [Client.ensureCreating]
  cases c.creating <;> exact ⟨rfl, rfl, rfl⟩

theorem Coherent.startNewChat (h : c.Coherent) : c.startNewChat.Coherent :=
  Coherent.ensureConversation ⟨fun _ hid => (by cases hid), h.sending, h.frames⟩

theorem Coherent.changeModel (h : c.Coherent) (next : String) :
    (c.changeModel next).Coherent := by
  rw [Client.changeModel]
  split
  · exact h
  · exact Coherent.ensureConversation ⟨fun _ hid => (by cases hid), h.sending, h.frames⟩

theorem Coherent.created (h : c.Coherent) (startedFor : String) (conversation : Conversation) :
    (c.created startedFor conversation).Coherent := by
  have hbase := (h.hear conversation).promoteConversation conversation
  rw [Client.created]
  split
  · exact hbase.adopt List.mem_cons_self
  · exact hbase

/-! ### What a reply writes -/

theorem setLastAssistant_frame (c : Client) (k : Nat) (fresh content : String) :
    c.setLastAssistant k fresh content =
      { c with messages := (c.setLastAssistant k fresh content).messages } := by
  rw [setLastAssistant]
  cases c.messages.getLast? with
  | none => rfl
  | some last =>
      dsimp only
      split <;> rfl

theorem mem_setLastAssistant {k : Nat} {fresh content : String} {entry : Entry}
    (h : entry ∈ (c.setLastAssistant k fresh content).messages) :
    entry ∈ c.messages ∨ entry.origin = .sent k := by
  have hadded : entry ∈ c.messages ++ [⟨⟨fresh, .assistant, content⟩, .sent k⟩] →
      entry ∈ c.messages ∨ entry.origin = .sent k := by
    intro hmem
    rcases List.mem_append.1 hmem with hmem | hmem
    · exact .inl hmem
    · obtain rfl := List.mem_singleton.1 hmem
      exact .inr rfl
  rw [setLastAssistant] at h
  cases hlast : c.messages.getLast? with
  | none =>
      rw [hlast] at h
      exact hadded h
  | some last =>
      rw [hlast] at h
      dsimp only at h
      split at h
      · rcases List.mem_append.1 h with hmem | hmem
        · exact .inl (List.mem_of_mem_dropLast hmem)
        · obtain rfl := List.mem_singleton.1 hmem
          exact .inr rfl
      · exact hadded h

theorem belongs_of_sent {heard : List Conversation} {posts : List Post} {id : String}
    {entry : Entry} {k : Nat} (h : entry.origin = .sent k) (hposted : Posted posts k id) :
    entry.Belongs heard posts id := by
  cases entry with
  | mk message origin =>
      cases h
      exact .sent hposted

/-- A reply is written where its text was posted, or where nothing is shown. -/
theorem Coherent.setLastAssistant (h : c.Coherent) {k : Nat} {fresh content : String}
    (hplace : ∀ id, c.activeId = some id → Posted c.posts k id) :
    (c.setLastAssistant k fresh content).Coherent := by
  rw [setLastAssistant_frame]
  refine ⟨fun id hid => ⟨fun entry hentry => ?_, (h.shows_active id hid).embodiment,
    (h.shows_active id hid).agent⟩, h.sending, h.frames⟩
  rcases mem_setLastAssistant hentry with hmem | horigin
  · exact (h.shows_active id hid).messages entry hmem
  · exact belongs_of_sent horigin (hplace id hid)

theorem Coherent.dropFrame (h : c.Coherent) (k : Nat) : (c.dropFrame k).Coherent where
  shows_active id hid :=
    (h.shows_active id hid).mono rfl rfl rfl rfl (fun _ h => h) (fun _ h => h)
  sending := h.sending
  frames frame hframe := h.frames frame (List.mem_filter.1 hframe).1

theorem Coherent.fail (h : c.Coherent) {k : Nat} {fresh message : String}
    (hplace : ∀ id, c.activeId = some id → Posted c.posts k id) :
    (c.fail k fresh message).Coherent := by
  have hwritten : ({ c with sendError := message }.setLastAssistant k fresh message).Coherent :=
    @Coherent.setLastAssistant { c with sendError := message }
      (h.same rfl rfl rfl rfl rfl rfl rfl rfl rfl) _ _ _ hplace
  refine ⟨fun id hid => (hwritten.shows_active id hid).mono rfl rfl rfl rfl (fun _ h => h)
    (fun _ h => h), ?_, hwritten.frames⟩
  rintro s ⟨⟩

/-- Posting a text to the conversation that is shown. -/
theorem Coherent.post (h : c.Coherent) (k : Nat) (text id : String) :
    (c.post k text id).Coherent where
  shows_active id' hid :=
    (h.shows_active id' hid).mono rfl rfl rfl rfl (fun _ h => h) (List.subset_cons_self _ _)
  sending s hs id' hid' := by
    cases Option.some.inj hs
    cases Option.some.inj hid'
    exact ⟨_, List.mem_cons_self, rfl, rfl⟩
  frames frame hframe := (h.frames frame hframe).mono (List.subset_cons_self _ _)

theorem Coherent.send (h : c.Coherent) (text userId assistantId : String) :
    (c.send text userId assistantId).Coherent := by
  cases hactive : c.activeId with
  | some id =>
      have hposts : c.posts ⊆ (⟨c.sends, id, text⟩ : Post) :: c.posts :=
        List.subset_cons_self _ _
      have hposted : Posted ((⟨c.sends, id, text⟩ : Post) :: c.posts) c.sends id :=
        ⟨_, List.mem_cons_self, rfl, rfl⟩
      simp only [Client.send, Client.typed, Client.submit, hactive, Client.post]
      refine ⟨fun id' hid => ?_, fun s hs id' hid => ?_,
        fun frame hframe => (h.frames frame hframe).mono hposts⟩
      · obtain rfl : id = id' := Option.some.inj (hactive ▸ hid)
        have hshows := h.shows_active id hactive
        refine ⟨fun entry hentry => ?_, hshows.embodiment, hshows.agent⟩
        rcases List.mem_append.1 hentry with hmem | hmem
        · exact (hshows.messages entry hmem).mono (fun _ h => h) hposts
        · rcases List.mem_cons.1 hmem with rfl | hmem
          · exact .sent hposted
          · obtain rfl := List.mem_singleton.1 hmem
            exact .sent hposted
      · cases Option.some.inj hs
        cases Option.some.inj hid
        exact hposted
  | none =>
      obtain ⟨hid, hframes, hposts⟩ := ensureCreating_frame (c.typed text userId assistantId)
      have hnone : (c.typed text userId assistantId).activeId = none := hactive
      simp only [Client.send, Client.submit, hnone]
      refine ⟨fun id hshown => ?_, fun s hs id hphase => ?_, fun frame hmem => ?_⟩
      · cases (hid.trans hnone).symm.trans hshown
      · cases Option.some.inj hs
        cases hphase
      · rw [hframes] at hmem
        exact hposts ▸ h.frames frame hmem

theorem Coherent.feed (h : c.Coherent) {s : Sending} {id reply : String}
    (hposted : Posted c.posts s.send id) : (c.feed s id reply).Coherent where
  shows_active id' hid :=
    (h.shows_active id' hid).mono rfl rfl rfl rfl (fun _ h => h) (fun _ h => h)
  sending s' hs id' hid' := by
    cases Option.some.inj hs
    cases Option.some.inj hid'
    exact hposted
  frames frame hframe := by
    rcases List.mem_cons.1 hframe with rfl | hmem
    · exact hposted
    · exact (h.dropFrame s.send).frames frame hmem

theorem Coherent.streamed (h : c.Coherent) {s : Sending} {id reply fresh : String}
    (hposted : Posted c.posts s.send id) (hactive : c.activeId = some id) :
    (c.streamed s id reply fresh).Coherent := by
  have hwritten : ((c.dropFrame s.send).setLastAssistant s.send fresh reply).Coherent :=
    (h.dropFrame s.send).setLastAssistant fun id' hid' =>
      Option.some.inj (hactive.symm.trans hid') ▸ hposted
  refine ⟨fun id' hid => (hwritten.shows_active id' hid).mono rfl rfl rfl rfl (fun _ h => h)
    (fun _ h => h), fun s' hs id' hid' => ?_, hwritten.frames⟩
  cases Option.some.inj hs
  cases Option.some.inj hid'
  rw [Client.streamed, setLastAssistant_frame]
  exact hposted

theorem Coherent.reload (h : c.Coherent) {s : Sending} {reply fresh : String}
    {conversation : Conversation} (hheard : conversation ∈ c.heard)
    (hactive : c.activeId = some conversation.id)
    (hposted : Posted c.posts s.send conversation.id) :
    (c.reload s reply fresh conversation).Coherent := by
  rw [Client.reload]
  split
  · refine ⟨fun id hid => ?_, h.sending, h.frames⟩
    obtain rfl : conversation.id = id := Option.some.inj (hactive.symm.trans hid)
    exact ⟨Conversation.entries_belong hheard, (h.shows_active _ hid).embodiment,
      (h.shows_active _ hid).agent⟩
  · split
    · exact h.setLastAssistant fun id hid => Option.some.inj (hactive.symm.trans hid) ▸ hposted
    · exact h

theorem reload_frame (c : Client) (s : Sending) (reply fresh : String)
    (conversation : Conversation) : (c.reload s reply fresh conversation).activeId = c.activeId ∧
      (c.reload s reply fresh conversation).heard = c.heard := by
  rw [Client.reload]
  split
  · exact ⟨rfl, rfl⟩
  · split
    · rw [setLastAssistant_frame]
      exact ⟨rfl, rfl⟩
    · exact ⟨rfl, rfl⟩

theorem Coherent.finish (h : c.Coherent) {s : Sending} {reply fresh : String}
    {conversation : Conversation} (hactive : c.activeId = some conversation.id)
    (hposted : Posted c.posts s.send conversation.id) :
    (c.finish s reply fresh conversation).Coherent := by
  have hheard : conversation ∈ (c.hear conversation).heard := List.mem_cons_self
  have hreloaded : ((c.hear conversation).reload s reply fresh conversation).Coherent :=
    (h.hear conversation).reload hheard hactive hposted
  obtain ⟨hid, hmem⟩ := reload_frame (c.hear conversation) s reply fresh conversation
  refine ⟨fun id hshown => ?_, fun s' hs => (by cases hs), hreloaded.frames⟩
  have hshows := hreloaded.shows_active id hshown
  obtain rfl : conversation.id = id := Option.some.inj ((hid.trans hactive).symm.trans hshown)
  exact ⟨hshows.messages, ⟨conversation, hmem ▸ hheard, rfl, rfl⟩, hshows.agent⟩

theorem Coherent.workspaceLoaded (h : c.Coherent) (models : List Model)
    (conversations : List ConversationSummary) (next : AfterLoad) :
    (c.workspaceLoaded models conversations next).Coherent := by
  have hlists : ∀ model, ({ c with
      models := models
      model := model
      conversations := conversations } : Client).Coherent :=
    fun model => h.same rfl rfl rfl rfl rfl rfl rfl rfl rfl
  rw [Client.workspaceLoaded.eq_def]
  cases next with
  | newChat => exact (hlists _).startNewChat
  | openFirst =>
      cases conversations.head? with
      | none => exact (hlists _).startNewChat
      | some summary => exact (hlists _).begin _

theorem Coherent.chosen (h : c.Coherent) (updated : Conversation) :
    (c.chosen updated.id updated).Coherent := by
  rw [Client.chosen]
  split
  · rename_i hactive
    have hchosen : ({ c.hear updated with
        activeEmbodimentId := updated.active_embodiment_id } : Client).Coherent := by
      refine ⟨fun id hid => ?_, h.sending, h.frames⟩
      obtain rfl : updated.id = id := Option.some.inj (hactive.symm.trans hid)
      have hshows := (h.hear updated).shows_active _ hid
      exact ⟨hshows.messages, ⟨updated, List.mem_cons_self, rfl, rfl⟩, hshows.agent⟩
    exact hchosen.promoteConversation updated
  · exact h.hear updated

theorem Coherent.removed (h : c.Coherent) (id : String) : (c.removed id).Coherent := by
  have hlist : ({ c with conversations := c.conversations.filter (·.id != id) } : Client).Coherent :=
    h.same rfl rfl rfl rfl rfl rfl rfl rfl rfl
  rw [Client.removed]
  split
  · exact hlist.clear
  · exact hlist

/-! ### Every step -/

/-- The conversation that a message under way writes to. -/
def target (c : Client) (s : Sending) : Option String :=
  match s.phase with
  | .awaiting promise =>
      match c.settled.lookup promise with
      | some (.resolved id) => some id
      | _ => none
  | .streaming id _ => some id
  | .latest id _ => some id

/-- What `send` still has to write finds its conversation on the screen. -/
def InPlace (c : Client) : Event → Prop
  | .resume _ => ∀ s, c.sending = some s → c.activeId = c.target s
  | .streamed _ _ => ∀ s, c.sending = some s → c.activeId = c.target s
  | .latest _ _ => ∀ s, c.sending = some s → c.activeId = c.target s
  | .paint send _ => ∀ frame ∈ c.frames, frame.send = send →
      c.activeId = some frame.conversationId
  | _ => True

/-- The server answers with the conversation that it was asked for. -/
def Answered (c : Client) : Event → Prop
  | .chosen conversationId (.ok conversation) => conversation.id = conversationId
  | .latest _ (.ok conversation) => ∀ s, c.sending = some s →
      s.phase.conversationId? = some conversation.id
  | _ => True

theorem Coherent.answer {α : Type} (h : c.Coherent) {task : Task} {reply : Except String α}
    {f : Client → α → Client} (hf : ∀ value, (f (c.done task) value).Coherent)
    (hstep : c.answer task reply f = some c') : c'.Coherent := by
  rw [Client.answer.eq_def] at hstep
  split at hstep
  · cases reply with
    | ok value => exact Option.some.inj hstep ▸ hf value
    | error message => exact Option.some.inj hstep ▸ h.done task
  · cases hstep

/-- **Every step keeps the coherence.** -/
theorem Coherent.step (h : c.Coherent) {e : Event} (hstep : c.step e = some c')
    (hplace : c.InPlace e) (hanswered : c.Answered e) : c'.Coherent := by
  cases e with
  | send text userId assistantId =>
      rw [Client.step] at hstep
      split at hstep
      · cases hstep
      · exact Option.some.inj hstep ▸ h.send text userId assistantId
  | startNewChat => exact Option.some.inj hstep ▸ h.startNewChat
  | selectChat id => exact Option.some.inj hstep ▸ h.begin _
  | removeChat id => exact Option.some.inj hstep ▸ h.begin _
  | changeModel next => exact Option.some.inj hstep ▸ h.changeModel next
  | selectEmbodiment next =>
      rw [Client.step] at hstep
      split at hstep
      · exact Option.some.inj hstep ▸ h
      · split at hstep
        · exact Option.some.inj hstep ▸ h
        · exact Option.some.inj hstep ▸ h.same rfl rfl rfl rfl rfl rfl rfl rfl rfl
  | loadWorkspace next => exact Option.some.inj hstep ▸ h.begin _
  | signOut => exact Option.some.inj hstep ▸ h.begin _
  | created promise startedFor reply =>
      rw [Client.step] at hstep
      split at hstep
      · cases reply with
        | ok conversation =>
            exact Option.some.inj hstep ▸ ((h.done _).created startedFor conversation).begin _
        | error message => exact Option.some.inj hstep ▸ (h.done _).begin _
      · cases hstep
  | settled promise outcome =>
      rw [Client.step] at hstep
      split at hstep
      · exact Option.some.inj hstep ▸ h.same rfl rfl rfl rfl rfl rfl rfl rfl rfl
      · cases hstep
  | selected id reply =>
      rw [Client.step] at hstep
      refine h.answer (fun conversation => ?_) hstep
      exact (((h.done (.selecting id)).hear conversation).adopt List.mem_cons_self).same
        rfl rfl rfl rfl rfl rfl rfl rfl rfl
  | removed id reply =>
      rw [Client.step] at hstep
      exact h.answer (fun _ => (h.done _).removed id) hstep
  | chosen conversationId reply =>
      rw [Client.step] at hstep
      split at hstep
      · cases reply with
        | ok updated =>
            obtain rfl : updated.id = conversationId := hanswered
            exact Option.some.inj hstep ▸ (h.done _).chosen updated
        | error message =>
            dsimp only at hstep
            split at hstep
            · exact Option.some.inj hstep ▸ h.same rfl rfl rfl rfl rfl rfl rfl rfl rfl
            · exact Option.some.inj hstep ▸ h.done _
      · cases hstep
  | workspace next reply =>
      rw [Client.step] at hstep
      exact h.answer (fun loaded => (h.done _).workspaceLoaded loaded.1 loaded.2 next) hstep
  | signedOut reply =>
      rw [Client.step] at hstep
      exact h.answer (fun _ => (h.done .signingOut).clear.same rfl rfl rfl rfl rfl rfl rfl rfl rfl) hstep
  | resume fresh =>
      rw [Client.step] at hstep
      cases hs : c.sending with
      | none => simp [hs] at hstep
      | some s =>
          have hactive := hplace s hs
          obtain ⟨k, text, phase⟩ := s
          cases phase with
          | streaming id reply => simp [hs] at hstep
          | latest id reply => simp [hs] at hstep
          | awaiting promise =>
              cases hsettled : c.settled.lookup promise with
              | none => simp [hs, hsettled] at hstep
              | some outcome =>
                  simp only [target, hsettled] at hactive
                  cases outcome with
                  | resolved id =>
                      simp only [hs, hsettled, Option.some.injEq] at hstep
                      have hkept : c.activeId.or (some id) = c.activeId := by rw [hactive]; rfl
                      rw [hkept] at hstep
                      exact hstep ▸ h.post k text id
                  | rejected message =>
                      simp only [hs, hsettled, Option.some.injEq] at hstep
                      refine hstep ▸ h.fail fun id hid => ?_
                      cases hactive.symm.trans hid
  | delta content =>
      rw [Client.step] at hstep
      cases hs : c.sending with
      | none => simp [hs] at hstep
      | some s =>
          have hposted := h.sending s hs
          obtain ⟨k, text, phase⟩ := s
          cases phase with
          | awaiting promise => simp [hs] at hstep
          | latest id reply => simp [hs] at hstep
          | streaming id reply =>
              simp only [hs, Option.some.injEq] at hstep
              exact hstep ▸ h.feed (hposted id rfl)
  | streamed fresh outcome =>
      rw [Client.step] at hstep
      cases hs : c.sending with
      | none => simp [hs] at hstep
      | some s =>
          have hposted := h.sending s hs
          have hactive := hplace s hs
          obtain ⟨k, text, phase⟩ := s
          cases phase with
          | awaiting promise => simp [hs] at hstep
          | latest id reply => simp [hs] at hstep
          | streaming id reply =>
              cases outcome with
              | ok _ =>
                  simp only [hs, Option.some.injEq] at hstep
                  exact hstep ▸ h.streamed (hposted id rfl) hactive
              | error message =>
                  simp only [hs, Option.some.injEq] at hstep
                  exact hstep ▸ h.fail fun id' hid =>
                    Option.some.inj (hactive.symm.trans hid) ▸ hposted id rfl
  | latest fresh answer =>
      rw [Client.step] at hstep
      cases hs : c.sending with
      | none => simp [hs] at hstep
      | some s =>
          have hposted := h.sending s hs
          have hactive := hplace s hs
          cases answer with
          | ok conversation =>
              have hasked := hanswered s hs
              obtain ⟨k, text, phase⟩ := s
              cases phase with
              | awaiting promise => simp [hs] at hstep
              | streaming id reply => simp [hs] at hstep
              | latest id reply =>
                  obtain rfl : id = conversation.id := Option.some.inj hasked
                  simp only [hs, Option.some.injEq] at hstep
                  exact hstep ▸ h.finish hactive (hposted _ rfl)
          | error message =>
              obtain ⟨k, text, phase⟩ := s
              cases phase with
              | awaiting promise => simp [hs] at hstep
              | streaming id reply => simp [hs] at hstep
              | latest id reply =>
                  simp only [hs, Option.some.injEq] at hstep
                  exact hstep ▸ h.fail fun id' hid =>
                    Option.some.inj (hactive.symm.trans hid) ▸ hposted id rfl
  | paint k fresh =>
      rw [Client.step] at hstep
      cases hframe : c.frames.find? (·.send == k) with
      | none => simp [hframe] at hstep
      | some frame =>
          simp only [hframe, Option.some.injEq] at hstep
          have hmem := List.mem_of_find?_eq_some hframe
          have hsend : frame.send = k := by simpa using List.find?_some hframe
          have hactive := hplace frame hmem hsend
          refine hstep ▸ (h.dropFrame k).setLastAssistant fun id hid => ?_
          exact hsend ▸ Option.some.inj (hactive.symm.trans hid) ▸ h.frames frame hmem

/-! ### Runs -/

/-- The states of the page when the server answers with what it was asked for, and every reply is
written while its conversation is shown. -/
inductive Reaches : Client → Prop
  | start : Reaches start
  | step {c c' : Client} {e : Event} (h : Reaches c) (hstep : c.step e = some c')
      (hplace : c.InPlace e) (hanswered : c.Answered e) : Reaches c'

/-- **No conversations are mixed.** -/
theorem shows_of_reaches (h : c.Reaches) {id : String} (hactive : c.activeId = some id) :
    c.Shows id := by
  suffices hcoherent : c.Coherent from hcoherent.shows_active id hactive
  clear hactive
  induction h with
  | start =>
      exact ⟨fun _ hid => (by cases hid), fun _ hs => (by cases hs), fun _ hmem => (by cases hmem)⟩
  | step _ hstep hplace hanswered ih => exact ih.step hstep hplace hanswered

/-- A conversation without messages. -/
def blankChat : Conversation := ⟨⟨"a", "", none, none, none, "en", none, "", ""⟩, some []⟩

theorem shows_of_reaches_reply : ∃ c : Client, c.Reaches ∧ c.messages.length = 2 ∧
    c.posts.length = 1 ∧ c.Shows "a" := by
  have hasked : Reaches _ := .step (e := .selectChat "a") .start rfl trivial trivial
  have hopened : Reaches _ := .step (e := .selected "a" (.ok blankChat)) hasked rfl trivial trivial
  have hsent : Reaches _ := .step (e := .send "hi" "u" "v") hopened rfl trivial trivial
  have hread : Reaches _ := .step (e := .delta "hello") hsent rfl trivial trivial
  have hreplied : Reaches _ := .step (e := .streamed "w" (.ok ())) hread rfl
    (fun _ hs => by cases Option.some.inj hs; rfl) trivial
  exact ⟨_, hreplied, rfl, rfl, shows_of_reaches hreplied rfl⟩

/-- A reply is written to the conversation that has been opened meanwhile: `send` does not look. -/
example : (do
    let c ← start.step (.selectChat "a")
    let c ← c.step (.selected "a" (.ok blankChat))
    let c ← c.step (.send "hi" "u" "v")
    let c ← c.step (.selectChat "b")
    let c ← c.step (.selected "b" (.ok ⟨{ blankChat.toConversationSummary with id := "b" }, none⟩))
    let c ← c.step (.streamed "w" (.ok ()))
    return (c.activeId, c.messages, c.posts.map Post.conversationId))
      = some (some "b", [⟨⟨"w", .assistant, ""⟩, .sent 0⟩], ["a"]) := by
  decide

end Client

end Gui
end HomeCortex
