/-
# Session fencing

`agents/session.py` over `agents/embodiments.py` and `spatial/presence.py`.  What one
call can do is said once (`Effect`, `perform_effect`): it raises and changes nothing,
or caches a body, opens a session under a new id, touches the online session whose id
it carries, or closes the one whose id it carries; no call raises after it has
written.  What a run keeps (`Orderly`) and what fences one call off from another
(`Fenced`) are read off that.
-/

import HomeCortex.Agents.Session
import HomeCortex.Library.Checked
import Mathlib

namespace HomeCortex

open Except Raising Spatial

/-! ### The methods of the parts -/

namespace EmbodimentConnections

variable {connections : EmbodimentConnections} {catalog : EmbodimentCatalog}
  {embodiment_id : String} {available : Json} {now : Option Timestamp} {clock : Int}

theorem touch_meets {disposition : SessionDisposition} {active : Option (Finset String)} :
    Meets (touch embodiment_id now clock disposition active) connections fun outcome after =>
      (∃ error, outcome = .error error ∧ after = connections) ∨
        ∃ previous seen change, observed now clock = .ok seen ∧
          connections.sessions.lookup embodiment_id = some previous ∧ previous.online = true ∧
          outcome = .ok change ∧ after = connections.put embodiment_id { previous with
            last_seen := seen
            available_capabilities := active.getD previous.available_capabilities } := by
  simp only [touch, meets_bind, meets_lift, meets_get, meets_modify, meets_pure]
  cases hseen : observed now clock with
  | error e => exact Or.inl ⟨e, rfl, rfl⟩
  | ok seen =>
      cases hlookup : connections.sessions.lookup embodiment_id with
      | none => simp [requireOnline, hlookup]
      | some previous =>
          cases honline : previous.online with
          | false => simp [requireOnline, hlookup, honline, raiseIf]
          | true => simp [requireOnline, hlookup, honline, raiseIf]

theorem connect_meets :
    Meets (connect catalog embodiment_id available now clock) connections fun outcome after =>
      (∃ error, outcome = .error error ∧ after = connections) ∨
        ∃ active seen disposition,
          let session : RuntimeSession := ⟨embodiment_id,
            sessionId connections.instance_id (connections.sequence + 1), true, seen, seen, active⟩
          outcome = .ok ⟨disposition, session⟩ ∧
            after = { connections.put embodiment_id session with
              sequence := connections.sequence + 1 } := by
  simp only [connect, meets_bind, meets_lift, meets_get, meets_modify, meets_pure]
  cases catalog.get embodiment_id with
  | error e => exact Or.inl ⟨e, rfl, rfl⟩
  | ok body =>
      dsimp only
      cases activeSubset body available with
      | error e => exact Or.inl ⟨e, rfl, rfl⟩
      | ok active =>
          dsimp only
          cases observed now clock with
          | error e => exact Or.inl ⟨e, rfl, rfl⟩
          | ok seen => exact Or.inr ⟨active, seen, _, rfl, rfl⟩

theorem updateCapabilities_meets :
    Meets (updateCapabilities catalog embodiment_id available now clock) connections
      fun outcome after =>
        (∃ error, outcome = .error error ∧ after = connections) ∨
          ∃ previous seen active change,
            connections.sessions.lookup embodiment_id = some previous ∧ previous.online = true ∧
            outcome = .ok change ∧ after = connections.put embodiment_id { previous with
              last_seen := seen, available_capabilities := active } := by
  simp only [updateCapabilities, meets_bind, meets_lift]
  cases catalog.get embodiment_id with
  | error e => exact Or.inl ⟨e, rfl, rfl⟩
  | ok body =>
      dsimp only
      cases activeSubset body available with
      | error e => exact Or.inl ⟨e, rfl, rfl⟩
      | ok active =>
          refine touch_meets.imp fun outcome after h => ?_
          rcases h with h | ⟨previous, seen, change, -, hlookup, honline, houtcome, hafter⟩
          · exact Or.inl h
          · exact Or.inr ⟨previous, seen, active, change, hlookup, honline, houtcome, hafter⟩

theorem heartbeat_meets :
    Meets (heartbeat catalog embodiment_id now clock) connections fun outcome after =>
      (∃ error, outcome = .error error ∧ after = connections) ∨
        ∃ previous seen change,
          connections.sessions.lookup embodiment_id = some previous ∧ previous.online = true ∧
          outcome = .ok change ∧ after = connections.put embodiment_id { previous with
            last_seen := seen } := by
  simp only [heartbeat, meets_bind, meets_lift]
  cases catalog.get embodiment_id with
  | error e => exact Or.inl ⟨e, rfl, rfl⟩
  | ok body =>
      refine touch_meets.imp fun outcome after h => ?_
      rcases h with h | ⟨previous, seen, change, -, hlookup, honline, houtcome, hafter⟩
      · exact Or.inl h
      · exact Or.inr ⟨previous, seen, change, hlookup, honline, houtcome, hafter⟩

/-- A heartbeat of an online session of a known body is not refused. -/
theorem heartbeat_of_online {body : Embodiment} {previous : RuntimeSession} {seen : Int}
    (hknown : catalog.get embodiment_id = .ok body) (hseen : observed now clock = .ok seen)
    (hlookup : connections.sessions.lookup embodiment_id = some previous)
    (honline : previous.online = true) :
    Meets (heartbeat catalog embodiment_id now clock) connections fun outcome after =>
      ∃ change, outcome = .ok change ∧ after = connections.put embodiment_id { previous with
        last_seen := seen } := by
  simp [heartbeat, touch, meets_bind, hknown, hseen, requireOnline, hlookup, honline, raiseIf,
    Except.map]

theorem disconnect_meets :
    Meets (disconnect catalog embodiment_id now clock) connections fun outcome after =>
      (∃ error, outcome = .error error ∧ after = connections) ∨
        ∃ previous seen change, connections.sessions.lookup embodiment_id = some previous ∧
          outcome = .ok change ∧
          (after = connections ∨ after = connections.put embodiment_id { previous with
            online := false, last_seen := seen, available_capabilities := ∅ }) := by
  simp only [disconnect, meets_bind, meets_lift, meets_get]
  cases catalog.get embodiment_id with
  | error e => exact Or.inl ⟨e, rfl, rfl⟩
  | ok body =>
      dsimp only
      cases observed now clock with
      | error e => exact Or.inl ⟨e, rfl, rfl⟩
      | ok seen =>
          cases hlookup : connections.sessions.lookup embodiment_id with
          | none => simp [requireOnline, hlookup]
          | some previous =>
              cases honline : previous.online with
              | false => simp [requireOnline, hlookup, honline]
              | true =>
                  simp only [requireOnline, hlookup, honline, if_true, meets_bind, meets_modify,
                    meets_pure]
                  exact Or.inr ⟨previous, seen, _, rfl, rfl, Or.inr rfl⟩

end EmbodimentConnections

namespace Spatial.EmbodimentPresence

variable {presence : EmbodimentPresence} {parsed : PhysicalTelemetry} {now : Option Timestamp}
  {clock : Int}

theorem submit_meets :
    Meets (submit parsed now clock) presence fun outcome after =>
      (∃ error, outcome = .error error ∧ after = presence) ∨
        ∃ admission seen, outcome = .ok admission ∧ observed now clock = .ok seen ∧
          (after = presence ∨ after = { presence with
            current := presence.current.insert parsed.embodiment_id parsed }) := by
  simp only [submit, meets_bind, meets_lift, meets_get]
  cases hseen : observed now clock with
  | error e => exact Or.inl ⟨e, rfl, rfl⟩
  | ok seen =>
      dsimp only
      cases presence.requireEmbodiment parsed.embodiment_id with
      | error e => exact Or.inl ⟨e, rfl, rfl⟩
      | ok =>
          dsimp only
          cases presence.requireSpace parsed.space_id with
          | error e => exact Or.inl ⟨e, rfl, rfl⟩
          | ok =>
              dsimp only
              cases disposition (presence.current.lookup parsed.embodiment_id) parsed with
              | error e => exact Or.inl ⟨e, rfl, rfl⟩
              | ok disposition =>
                  cases disposition with
                  | accepted => exact Or.inr ⟨_, seen, rfl, rfl, Or.inr rfl⟩
                  | duplicate | ignored => exact Or.inr ⟨_, seen, rfl, rfl, Or.inl rfl⟩

theorem registerEmbodiment_meets {embodiment_id : String} :
    Meets (registerEmbodiment embodiment_id) presence fun _ after =>
      after.current = presence.current := by
  simp only [registerEmbodiment, meets_bind, meets_lift, meets_modify]
  cases typedId (.str embodiment_id) "embodiment" "embodiment_id" <;> rfl

end Spatial.EmbodimentPresence
namespace EmbodimentSession

variable {session after : EmbodimentSession} {embodiment_id : String}

/-! ### The checks before a call -/

theorem requireKnown_eq_ok {body : Embodiment} :
    session.requireKnown embodiment_id = .ok body ↔
      session.catalog.get embodiment_id = .ok body := by
  rw [requireKnown]
  split
  case h_1 message h => simp [h]
  case h_2 => rfl

/-- The id of a known body is typed, so its session is looked up. -/
theorem current_of_known {body : Embodiment} {connections : EmbodimentConnections}
    (h : session.requireKnown embodiment_id = .ok body) :
    connections.current embodiment_id = .ok (connections.sessions.lookup embodiment_id) := by
  have hget := requireKnown_eq_ok.1 h
  simp only [EmbodimentCatalog.get, bind_eq_ok] at hget
  obtain ⟨parsed, htyped, -⟩ := hget
  cases typedId_eq_ok htyped
  rw [EmbodimentConnections.current, htyped]
  rfl

/-- What the check of a session id lets through. -/
theorem requireCurrent_eq_ok {body : Embodiment} {session_id : Option String}
    {allow_offline : Bool} (h : session.requireKnown embodiment_id = .ok body) :
    session.requireCurrent embodiment_id session_id allow_offline = .ok () ↔
      ∃ current, session.connections.sessions.lookup embodiment_id = some current ∧
        (current.online = true ∨ allow_offline = true) ∧
          session_id = some current.session_id := by
  rw [requireCurrent, current_of_known h]
  cases session.connections.sessions.lookup embodiment_id with
  | none => simp [bind, Except.bind]
  | some current =>
      cases honline : current.online <;> cases allow_offline <;>
        simp [bind, Except.bind, raiseIf, honline]

/-- A body that was known before is viewed after, with its session. -/
theorem view_of_known {body : Embodiment} {change : Option SessionChange}
    (h : session.requireKnown embodiment_id = .ok body) (hcatalog : after.catalog = session.catalog) :
    after.view embodiment_id change = .ok ⟨body.id, body.agent_id, body.capabilities,
      after.connections.sessions.lookup embodiment_id, change.map SessionChange.disposition⟩ := by
  have hafter : after.requireKnown embodiment_id = .ok body := by
    rwa [requireKnown_eq_ok, hcatalog, ← requireKnown_eq_ok]
  rw [view, hafter, current_of_known hafter]
  rfl

end EmbodimentSession

/-! ### What a call can do -/

/-- The session id that a call carries, if it is one that has to. -/
def SessionCall.presented : SessionCall → Option (Option String)
  | .noteResolved _ | .register .. => none
  | .updateCapabilities _ _ session_id _ _ | .heartbeat _ session_id _ _
  | .disconnect _ session_id _ _ | .submitTelemetry _ session_id _ _ _ => some session_id

/-- The telemetry that a call submits. -/
def SessionCall.submitted : SessionCall → Option PhysicalTelemetry
  | .submitTelemetry sample _ _ _ _ => sample.parse.toOption
  | _ => none

/-- The body a call is about. -/
def SessionCall.embodiment : SessionCall → Option String
  | .noteResolved body => some body.id
  | .register embodiment_id _ _ _ | .updateCapabilities embodiment_id _ _ _ _
  | .heartbeat embodiment_id _ _ _ | .disconnect embodiment_id _ _ _ => some embodiment_id
  | .submitTelemetry sample _ _ _ _ => sample.parse.toOption.map PhysicalTelemetry.embodiment_id

/-- The call is a `disconnect`. -/
def SessionCall.isDisconnect : SessionCall → Bool
  | .disconnect .. => true
  | _ => false

namespace EmbodimentSession

/-- The effects of a call, by what it does to the connections and to the telemetry. -/
inductive Effect (call : SessionCall) (session : EmbodimentSession) :
    Except PyError SessionAnswer → EmbodimentSession → Prop
  | raised (error : PyError) : Effect call session (.error error) session
  | noted {body : Embodiment} {outcome : Except PyError SessionAnswer} {after : EmbodimentSession}
      (hcall : call = .noteResolved body) (hconnections : after.connections = session.connections)
      (htelemetry : after.presence.current = session.presence.current) :
      Effect call session outcome after
  | opened {embodiment_id : String} {available : Json} {now : Option Timestamp} {clock seen : Int}
      {active : Finset String} {view : EmbodimentView} {opened : RuntimeSession}
      (hcall : call = .register embodiment_id available now clock)
      (hopened : opened = ⟨embodiment_id, EmbodimentConnections.sessionId
        session.connections.instance_id (session.connections.sequence + 1), true, seen, seen,
        active⟩)
      (hview : view.session = some opened) :
      Effect call session (.ok (.view view)) { session with
        connections := { session.connections.put embodiment_id opened with
          sequence := session.connections.sequence + 1 } }
  | refreshed {embodiment_id : String} {previous current : RuntimeSession}
      {presence : EmbodimentPresence} {answer : SessionAnswer}
      (hcall : call.embodiment = some embodiment_id)
      (hpresented : call.presented = some (some previous.session_id))
      (hprevious : session.connections.sessions.lookup embodiment_id = some previous)
      (honline : previous.online = true) (hcurrent : current.online = true)
      (hsame : current.session_id = previous.session_id ∧
        current.embodiment_id = previous.embodiment_id)
      (htelemetry : presence.current = session.presence.current ∨
        ∃ parsed, call.submitted = some parsed ∧ parsed.embodiment_id = embodiment_id ∧
          presence.current = session.presence.current.insert embodiment_id parsed) :
      Effect call session (.ok answer) { session with
        connections := session.connections.put embodiment_id current, presence := presence }
  | closed {embodiment_id : String} {previous : RuntimeSession} {seen : Int}
      {connections : EmbodimentConnections} {answer : SessionAnswer}
      (hcall : call.embodiment = some embodiment_id) (hdisconnect : call.isDisconnect = true)
      (hpresented : call.presented = some (some previous.session_id))
      (hprevious : session.connections.sessions.lookup embodiment_id = some previous)
      (hconnections : connections = session.connections ∨
        connections = session.connections.put embodiment_id { previous with
          online := false, last_seen := seen, available_capabilities := ∅ }) :
      Effect call session (.ok answer) { session with connections := connections }

variable {session : EmbodimentSession}

theorem noteResolved_effect (body : Embodiment) :
    Meets (noteResolved body) session (Effect (.noteResolved body) session) := by
  have hcache : Meets (EmbodimentCatalog.cacheResolved body) session.catalog
      fun outcome catalog => True := trivial
  simp only [noteResolved, onCatalog, onPresence, meets_bind, meets_zoom, meets_pure]
  refine hcache.imp fun outcome catalog _ => ?_
  cases outcome with
  | error e => exact .noted rfl rfl rfl
  | ok =>
      refine EmbodimentPresence.registerEmbodiment_meets.imp fun outcome presence h => ?_
      cases outcome with
      | error e => exact .noted rfl rfl h
      | ok => exact .noted rfl rfl h

theorem register_effect (embodiment_id : String) (available : Json) (now : Option Timestamp)
    (clock : Int) :
    Meets (register embodiment_id available now clock) session
      (Effect (.register embodiment_id available now clock) session) := by
  simp only [register, onConnections, meets_bind, meets_zoom, meets_get, meets_lift, meets_pure]
  cases hknown : session.requireKnown embodiment_id with
  | error e => exact .raised e
  | ok body =>
      refine EmbodimentConnections.connect_meets.imp fun outcome connections h => ?_
      rcases h with ⟨e, rfl, rfl⟩ | ⟨active, seen, disposition, rfl, rfl⟩
      · exact .raised e
      · dsimp only
        rw [view_of_known hknown]
        · exact .opened rfl rfl (AList.lookup_insert _)
        · rfl

/-- A call under the current session id that touches the session. -/
theorem updateCapabilities_effect (embodiment_id : String) (available : Json)
    (session_id : Option String) (now : Option Timestamp) (clock : Int) :
    Meets (updateCapabilities embodiment_id available session_id now clock) session
      (Effect (.updateCapabilities embodiment_id available session_id now clock) session) := by
  simp only [updateCapabilities, onConnections, meets_bind, meets_zoom, meets_get, meets_lift,
    meets_pure]
  cases hknown : session.requireKnown embodiment_id with
  | error e => exact .raised e
  | ok body =>
      dsimp only
      cases hcurrent : session.requireCurrent embodiment_id session_id false with
      | error e => exact .raised e
      | ok =>
          obtain ⟨current, hlookup, -, rfl⟩ := (requireCurrent_eq_ok hknown).1 hcurrent
          refine EmbodimentConnections.updateCapabilities_meets.imp fun outcome connections h => ?_
          rcases h with ⟨e, rfl, rfl⟩ | ⟨previous, seen, active, change, hprevious, honline, rfl, rfl⟩
          · exact .raised e
          · cases hlookup.symm.trans hprevious
            dsimp only
            rw [view_of_known hknown]
            · exact .refreshed rfl rfl hlookup honline honline ⟨rfl, rfl⟩ (Or.inl rfl)
            · rfl

theorem heartbeat_effect (embodiment_id : String) (session_id : Option String)
    (now : Option Timestamp) (clock : Int) :
    Meets (heartbeat embodiment_id session_id now clock) session
      (Effect (.heartbeat embodiment_id session_id now clock) session) := by
  simp only [heartbeat, onConnections, meets_bind, meets_zoom, meets_get, meets_lift, meets_pure]
  cases hknown : session.requireKnown embodiment_id with
  | error e => exact .raised e
  | ok body =>
      dsimp only
      cases hcurrent : session.requireCurrent embodiment_id session_id false with
      | error e => exact .raised e
      | ok =>
          obtain ⟨current, hlookup, -, rfl⟩ := (requireCurrent_eq_ok hknown).1 hcurrent
          refine EmbodimentConnections.heartbeat_meets.imp fun outcome connections h => ?_
          rcases h with ⟨e, rfl, rfl⟩ | ⟨previous, seen, change, hprevious, honline, rfl, rfl⟩
          · exact .raised e
          · cases hlookup.symm.trans hprevious
            dsimp only
            rw [view_of_known hknown]
            · exact .refreshed rfl rfl hlookup honline honline ⟨rfl, rfl⟩ (Or.inl rfl)
            · rfl

theorem disconnect_effect (embodiment_id : String) (session_id : Option String)
    (now : Option Timestamp) (clock : Int) :
    Meets (disconnect embodiment_id session_id now clock) session
      (Effect (.disconnect embodiment_id session_id now clock) session) := by
  simp only [disconnect, onConnections, meets_bind, meets_zoom, meets_get, meets_lift, meets_pure]
  cases hknown : session.requireKnown embodiment_id with
  | error e => exact .raised e
  | ok body =>
      dsimp only
      cases hcurrent : session.requireCurrent embodiment_id session_id true with
      | error e => exact .raised e
      | ok =>
          obtain ⟨current, hlookup, -, rfl⟩ := (requireCurrent_eq_ok hknown).1 hcurrent
          refine EmbodimentConnections.disconnect_meets.imp fun outcome connections h => ?_
          rcases h with ⟨e, rfl, rfl⟩ | ⟨previous, seen, change, hprevious, rfl, hafter⟩
          · exact .raised e
          · cases hlookup.symm.trans hprevious
            dsimp only
            rw [view_of_known hknown]
            · exact .closed rfl rfl rfl hlookup hafter
            · rfl

theorem submitTelemetry_effect (sample : TelemetrySample) (session_id : Option String)
    (now : Option Timestamp) (clock clock' : Int) :
    Meets (submitTelemetry sample session_id now clock clock') session
      (Effect (.submitTelemetry sample session_id now clock clock') session) := by
  simp only [submitTelemetry, onConnections, onPresence, meets_bind, meets_zoom, meets_get,
    meets_lift, meets_pure, meets_mapError]
  cases hparsed : sample.parse with
  | error e => exact .raised e
  | ok parsed =>
      dsimp only
      cases hknown : session.requireKnown parsed.embodiment_id with
      | error e => exact .raised e
      | ok body =>
          dsimp only
          cases hcurrent : session.requireCurrent parsed.embodiment_id session_id false with
          | error e => exact .raised e
          | ok =>
              obtain ⟨current, hlookup, honline, rfl⟩ := (requireCurrent_eq_ok hknown).1 hcurrent
              have honline : current.online = true := by simpa using honline
              refine EmbodimentPresence.submit_meets.imp fun outcome presence h => ?_
              rcases h with ⟨e, rfl, rfl⟩ | ⟨admission, seen, rfl, hseen, hpresence⟩
              · exact .raised _
              · -- the clock that the presence accepted also serves the heartbeat
                have hseen' : ∃ seen', observed now clock' = .ok seen' := by
                  cases now with
                  | none => exact ⟨clock', rfl⟩
                  | some now => exact ⟨seen, hseen⟩
                obtain ⟨seen', hseen'⟩ := hseen'
                refine (EmbodimentConnections.heartbeat_of_online (requireKnown_eq_ok.1 hknown)
                  hseen' hlookup honline).imp fun outcome connections h => ?_
                obtain ⟨change, rfl, rfl⟩ := h
                dsimp only
                have htelemetry : presence.current = session.presence.current ∨
                    ∃ parsed', (SessionCall.submitTelemetry sample (some current.session_id) now
                        clock clock').submitted = some parsed' ∧
                      parsed'.embodiment_id = parsed.embodiment_id ∧
                      presence.current
                        = session.presence.current.insert parsed.embodiment_id parsed' := by
                  rcases hpresence with rfl | rfl
                  · exact Or.inl rfl
                  · exact Or.inr ⟨parsed, by simp [SessionCall.submitted, hparsed,
                      Except.toOption], rfl, rfl⟩
                rw [view_of_known hknown]
                · exact .refreshed (by simp [SessionCall.embodiment, hparsed, Except.toOption]) rfl
                    hlookup honline honline ⟨rfl, rfl⟩ htelemetry
                · rfl

/-- **What a call can do.** -/
theorem perform_effect (call : SessionCall) :
    Meets (perform call) session (Effect call session) := by
  cases call with
  | noteResolved body => exact noteResolved_effect body
  | register embodiment_id available now clock =>
      exact register_effect embodiment_id available now clock
  | updateCapabilities embodiment_id available session_id now clock =>
      exact updateCapabilities_effect embodiment_id available session_id now clock
  | heartbeat embodiment_id session_id now clock =>
      exact heartbeat_effect embodiment_id session_id now clock
  | disconnect embodiment_id session_id now clock =>
      exact disconnect_effect embodiment_id session_id now clock
  | submitTelemetry sample session_id now clock clock' =>
      exact submitTelemetry_effect sample session_id now clock clock'


/-! ### Runs -/

/-- The session id that a call has issued. -/
def issuedBy : SessionCall → Except PyError SessionAnswer → Option String
  | .register .., .ok (.view view) => view.session.map RuntimeSession.session_id
  | _, _ => none

/-- One call of a run: the session, and the ids issued so far, the last one first. -/
def step (state : EmbodimentSession × List String) (call : SessionCall) :
    EmbodimentSession × List String :=
  let (outcome, after) := (perform call).outcome state.1
  (after, (issuedBy call outcome).toList ++ state.2)

/-- The state after a sequence of calls. -/
def run (start : EmbodimentSession) (calls : List SessionCall) :
    EmbodimentSession × List String :=
  calls.foldl step (start, [])

/-- What every call keeps of the connections and the ids issued so far. -/
structure Orderly (connections : EmbodimentConnections) (issued : List String) : Prop where
  keyed : ∀ id session, connections.sessions.lookup id = some session → session.embodiment_id = id
  owned : ∀ id session, connections.sessions.lookup id = some session → session.session_id ∈ issued
  distinct : ∀ id id' session session', connections.sessions.lookup id = some session →
    connections.sessions.lookup id' = some session' → session.session_id = session'.session_id →
      id = id'
  bare : ∀ id session, connections.sessions.lookup id = some session → session.online = false →
    session.available_capabilities = ∅
  numbered : ∀ session_id ∈ issued, ∃ n ≤ connections.sequence,
    session_id = EmbodimentConnections.sessionId connections.instance_id n
  nodup : issued.Nodup

theorem sessionId_injective {instance_id : String} {m n : Nat}
    (h : EmbodimentConnections.sessionId instance_id m
      = EmbodimentConnections.sessionId instance_id n) : m = n :=
  Nat.repr_inj.1 (String.append_right_inj _ |>.1 h)

/-- Putting a session in the place of one with the same id keeps order. -/
theorem Orderly.put {connections : EmbodimentConnections} {issued : List String}
    (h : Orderly connections issued) {embodiment_id : String} {previous current : RuntimeSession}
    (hprevious : connections.sessions.lookup embodiment_id = some previous)
    (hsession : current.session_id = previous.session_id)
    (hembodiment : current.embodiment_id = previous.embodiment_id)
    (hbare : current.online = false → current.available_capabilities = ∅) :
    Orderly (connections.put embodiment_id current) issued := by
  have hlookup : ∀ id session,
      (connections.put embodiment_id current).sessions.lookup id = some session →
        ∃ before, connections.sessions.lookup id = some before ∧
          session.session_id = before.session_id ∧ session.embodiment_id = before.embodiment_id ∧
          (session.online = false → session.available_capabilities = ∅) := by
    intro id session hid
    by_cases hne : id = embodiment_id
    · subst hne
      rw [EmbodimentConnections.put, AList.lookup_insert] at hid
      cases hid
      exact ⟨previous, hprevious, hsession, hembodiment, hbare⟩
    · rw [EmbodimentConnections.put, AList.lookup_insert_ne hne] at hid
      exact ⟨session, hid, rfl, rfl, h.bare id session hid⟩
  refine ⟨?_, ?_, ?_, ?_, h.numbered, h.nodup⟩
  · intro id session hid
    obtain ⟨before, hbefore, -, hsame, -⟩ := hlookup id session hid
    rw [hsame, h.keyed id before hbefore]
  · intro id session hid
    obtain ⟨before, hbefore, hsame, -, -⟩ := hlookup id session hid
    rw [hsame]
    exact h.owned id before hbefore
  · intro id id' session session' hid hid' hsame
    obtain ⟨before, hbefore, hsession, -, -⟩ := hlookup id session hid
    obtain ⟨before', hbefore', hsession', -, -⟩ := hlookup id' session' hid'
    exact h.distinct id id' before before' hbefore hbefore' (by rw [← hsession, hsame, hsession'])
  · intro id session hid
    obtain ⟨-, -, -, -, hbare⟩ := hlookup id session hid
    exact hbare

/-- A new session has an id of its own. -/
theorem Orderly.opened {connections : EmbodimentConnections} {issued : List String}
    (h : Orderly connections issued) {opened : RuntimeSession}
    (hid : opened.session_id
      = EmbodimentConnections.sessionId connections.instance_id (connections.sequence + 1))
    (honline : opened.online = true) :
    opened.session_id ∉ issued ∧
      Orderly { connections.put opened.embodiment_id opened with
        sequence := connections.sequence + 1 } (opened.session_id :: issued) := by
  have hfresh : opened.session_id ∉ issued := by
    intro hmem
    obtain ⟨n, hn, hsame⟩ := h.numbered _ hmem
    rw [hid] at hsame
    have := sessionId_injective hsame
    omega
  have hlookup : ∀ id session,
      (connections.put opened.embodiment_id opened).sessions.lookup id = some session →
        id = opened.embodiment_id ∧ session = opened ∨
          id ≠ opened.embodiment_id ∧ connections.sessions.lookup id = some session := by
    intro id session hid
    by_cases hne : id = opened.embodiment_id
    · subst hne
      rw [EmbodimentConnections.put, AList.lookup_insert] at hid
      exact Or.inl ⟨rfl, (Option.some.inj hid).symm⟩
    · rw [EmbodimentConnections.put, AList.lookup_insert_ne hne] at hid
      exact Or.inr ⟨hne, hid⟩
  refine ⟨hfresh, ?_, ?_, ?_, ?_, ?_, List.nodup_cons.2 ⟨hfresh, h.nodup⟩⟩
  · intro id session hmem
    rcases hlookup id session hmem with ⟨rfl, rfl⟩ | ⟨-, hmem⟩
    · rfl
    · exact h.keyed id session hmem
  · intro id session hmem
    rcases hlookup id session hmem with ⟨rfl, rfl⟩ | ⟨-, hmem⟩
    · exact List.mem_cons_self
    · exact List.mem_cons_of_mem _ (h.owned id session hmem)
  · intro id id' session session' hmem hmem' hsame
    rcases hlookup id session hmem with ⟨hid, hsession⟩ | ⟨-, hold⟩ <;>
      rcases hlookup id' session' hmem' with ⟨hid', hsession'⟩ | ⟨-, hold'⟩
    · rw [hid, hid']
    · have hmem := h.owned id' session' hold'
      rw [← hsame, hsession] at hmem
      exact absurd hmem hfresh
    · have hmem := h.owned id session hold
      rw [hsame, hsession'] at hmem
      exact absurd hmem hfresh
    · exact h.distinct id id' session session' hold hold' hsame
  · intro id session hmem hoffline
    rcases hlookup id session hmem with ⟨rfl, rfl⟩ | ⟨-, hmem⟩
    · rw [honline] at hoffline
      cases hoffline
    · exact h.bare id session hmem hoffline
  · intro session_id hmem
    rcases List.mem_cons.1 hmem with rfl | hmem
    · exact ⟨_, le_rfl, hid⟩
    · obtain ⟨n, hn, hsame⟩ := h.numbered _ hmem
      exact ⟨n, Nat.le_succ_of_le hn, hsame⟩

theorem issuedBy_of_presented {call : SessionCall} {outcome : Except PyError SessionAnswer}
    {session_id : Option String} (h : call.presented = some session_id) :
    issuedBy call outcome = none := by
  cases call <;> first | rfl | cases h

/-- Every call keeps the connections in order. -/
theorem orderly_step {session : EmbodimentSession} {issued : List String}
    (h : Orderly session.connections issued) (call : SessionCall) :
    Orderly (step (session, issued) call).1.connections (step (session, issued) call).2 := by
  have heffect := @perform_effect session call
  simp only [Meets] at heffect
  simp only [step]
  generalize (perform call).outcome session = result at heffect
  obtain ⟨outcome, after⟩ := result
  dsimp only at heffect ⊢
  cases heffect with
  | raised error =>
      have hnone : issuedBy call (.error error) = none := by cases call <;> rfl
      rwa [hnone]
  | noted hcall hconnections htelemetry =>
      subst hcall
      rw [hconnections]
      exact h
  | @opened embodiment_id available now clock seen active view opened hcall hopened hview =>
      have hkept := (h.opened (by rw [hopened]) (by rw [hopened]) : opened.session_id ∉ issued ∧ _).2
      have hkey : opened.embodiment_id = embodiment_id := by rw [hopened]
      subst hcall
      simp only [issuedBy, hview, Option.map_some, Option.toList_some, List.singleton_append]
      rwa [hkey] at hkept
  | refreshed hcall hpresented hprevious honline hcurrent hsame htelemetry =>
      rw [issuedBy_of_presented hpresented]
      exact h.put hprevious hsame.1 hsame.2 fun hoffline => by simp [hcurrent] at hoffline
  | closed hcall hdisconnect hpresented hprevious hconnections =>
      rw [issuedBy_of_presented hpresented]
      rcases hconnections with rfl | rfl
      · exact h
      · exact h.put hprevious rfl rfl fun _ => rfl

/-- A call names the online session of its body, or its last one to disconnect it. -/
def Admitted (session : EmbodimentSession) (call : SessionCall) : Prop :=
  ∃ embodiment_id current, call.embodiment = some embodiment_id ∧
    session.connections.sessions.lookup embodiment_id = some current ∧
    call.presented = some (some current.session_id) ∧
    (current.online = true ∨ call.isDisconnect = true)

/-- A call that has to name a session and does not changes nothing. -/
theorem raised_of_not_admitted {session : EmbodimentSession} {call : SessionCall}
    {session_id : Option String} (hpresented : call.presented = some session_id)
    (h : ¬session.Admitted call) :
    ∃ error, (perform call).outcome session = (.error error, session) := by
  have heffect := @perform_effect session call
  simp only [Meets] at heffect
  generalize (perform call).outcome session = result at heffect
  obtain ⟨outcome, after⟩ := result
  dsimp only at heffect
  cases heffect with
  | raised error => exact ⟨error, rfl⟩
  | noted hcall hconnections htelemetry =>
      subst hcall
      cases hpresented
  | opened hcall hopened hview =>
      subst hcall
      cases hpresented
  | refreshed hcall hpresented hprevious honline hcurrent hsame htelemetry =>
      exact absurd ⟨_, _, hcall, hprevious, hpresented, Or.inl honline⟩ h
  | closed hcall hdisconnect hpresented hprevious hconnections =>
      exact absurd ⟨_, _, hcall, hprevious, hpresented, Or.inr hdisconnect⟩ h

/-- Telemetry changes under the id of the online session only. -/
theorem telemetry_changed {session : EmbodimentSession} {call : SessionCall} {body : String}
    (h : ((perform call).outcome session).2.presence.current.lookup body
      ≠ session.presence.current.lookup body) :
    ∃ parsed current, call.submitted = some parsed ∧ parsed.embodiment_id = body ∧
      session.connections.sessions.lookup body = some current ∧ current.online = true ∧
      call.presented = some (some current.session_id) := by
  have heffect := @perform_effect session call
  simp only [Meets] at heffect
  generalize (perform call).outcome session = result at heffect h
  obtain ⟨outcome, after⟩ := result
  dsimp only at heffect h
  cases heffect with
  | raised error => exact absurd rfl h
  | noted hcall hconnections htelemetry => exact absurd (by rw [htelemetry]) h
  | opened hcall hopened hview => exact absurd rfl h
  | refreshed hcall hpresented hprevious honline hcurrent hsame htelemetry =>
      rcases htelemetry with htelemetry | ⟨parsed, hsubmitted, hid, htelemetry⟩
      · exact absurd (by rw [htelemetry]) h
      · by_cases hbody : body = parsed.embodiment_id
        · subst hbody
          rw [hid] at h ⊢
          exact ⟨parsed, _, hsubmitted, hid, hprevious, honline, hpresented⟩
        · rw [htelemetry, ← hid, AList.lookup_insert_ne hbody] at h
          exact absurd rfl h
  | closed hcall hdisconnect hpresented hprevious hconnections => exact absurd rfl h

/-- Only a register changes the id of a body's session, and it issues the new one. -/
theorem session_id_changed {session : EmbodimentSession} {call : SessionCall} {body : String}
    (h : (((perform call).outcome session).2.connections.sessions.lookup body).map
        RuntimeSession.session_id
      ≠ (session.connections.sessions.lookup body).map RuntimeSession.session_id) :
    call.embodiment = some body ∧ call.presented = none ∧
      ∃ session_id, issuedBy call ((perform call).outcome session).1 = some session_id ∧
        (((perform call).outcome session).2.connections.sessions.lookup body).map
          RuntimeSession.session_id = some session_id := by
  have heffect := @perform_effect session call
  simp only [Meets] at heffect
  generalize (perform call).outcome session = result at heffect h ⊢
  obtain ⟨outcome, after⟩ := result
  dsimp only at heffect h ⊢
  have hput : ∀ embodiment_id previous current,
      session.connections.sessions.lookup embodiment_id = some previous →
      current.session_id = previous.session_id →
      ((session.connections.put embodiment_id current).sessions.lookup body).map
          RuntimeSession.session_id
        = (session.connections.sessions.lookup body).map RuntimeSession.session_id := by
    intro embodiment_id previous current hprevious hsame
    by_cases hbody : body = embodiment_id
    · subst hbody
      rw [EmbodimentConnections.put, AList.lookup_insert, hprevious, Option.map_some,
        Option.map_some, hsame]
    · rw [EmbodimentConnections.put, AList.lookup_insert_ne hbody]
  cases heffect with
  | raised error => exact absurd rfl h
  | noted hcall hconnections htelemetry => exact absurd (by rw [hconnections]) h
  | @opened embodiment_id available now clock seen active view opened hcall hopened hview =>
      subst hcall
      by_cases hbody : body = embodiment_id
      · subst hbody
        refine ⟨rfl, rfl, opened.session_id, ?_, ?_⟩
        · simp [issuedBy, hview]
        · simp [EmbodimentConnections.put]
      · refine absurd ?_ h
        simp [EmbodimentConnections.put, AList.lookup_insert_ne hbody]
  | refreshed hcall hpresented hprevious honline hcurrent hsame htelemetry =>
      exact absurd (hput _ _ _ hprevious hsame.1) h
  | closed hcall hdisconnect hpresented hprevious hconnections =>
      rcases hconnections with rfl | rfl
      · exact absurd rfl h
      · exact (h (hput _ _ _ hprevious rfl)).elim

theorem orderly_run (start : EmbodimentSession) (calls : List SessionCall)
    (hfresh : start.connections.sessions = ∅) :
    Orderly (run start calls).1.connections (run start calls).2 := by
  have hstart : Orderly start.connections [] := by
    refine ⟨?_, ?_, ?_, ?_, ?_, List.nodup_nil⟩ <;> simp [hfresh]
  have hrun : ∀ (calls : List SessionCall) (state : EmbodimentSession × List String),
      Orderly state.1.connections state.2 →
        Orderly (calls.foldl step state).1.connections (calls.foldl step state).2 := by
    intro calls
    induction calls with
    | nil => exact fun state h => h
    | cons call calls ih => exact fun state h => ih _ (orderly_step h call)
  exact hrun calls (start, []) hstart

/-- What holds at every point of a run: of the state reached, with the ids issued on the
way, and of every call that may come next. -/
structure Fenced (session : EmbodimentSession) (issued : List String) : Prop where
  never_reused : issued.Nodup
  own_session : ∀ embodiment_id current,
    session.connections.sessions.lookup embodiment_id = some current →
      current.embodiment_id = embodiment_id ∧ current.session_id ∈ issued
  one_current : ∀ embodiment_id embodiment_id' current current',
    session.connections.sessions.lookup embodiment_id = some current →
    session.connections.sessions.lookup embodiment_id' = some current' →
    (current.embodiment_id = current'.embodiment_id ∨ current.session_id = current'.session_id) →
      embodiment_id = embodiment_id' ∧ current = current'
  new_id : ∀ call body,
    (((perform call).outcome session).2.connections.sessions.lookup body).map
        RuntimeSession.session_id
      ≠ (session.connections.sessions.lookup body).map RuntimeSession.session_id →
    call.embodiment = some body ∧ call.presented = none ∧
      ∃ session_id ∉ issued,
        issuedBy call ((perform call).outcome session).1 = some session_id ∧
        (((perform call).outcome session).2.connections.sessions.lookup body).map
          RuntimeSession.session_id = some session_id
  stale_refused : ∀ call session_id, call.presented = some session_id →
    ¬session.Admitted call →
      ∃ error, (perform call).outcome session = (.error error, session)
  offline_bare : ∀ embodiment_id current,
    session.connections.sessions.lookup embodiment_id = some current →
      current.online = false → current.available_capabilities = ∅
  telemetry_fenced : ∀ call body,
    ((perform call).outcome session).2.presence.current.lookup body
      ≠ session.presence.current.lookup body →
    ∃ parsed current, call.submitted = some parsed ∧ parsed.embodiment_id = body ∧
      session.connections.sessions.lookup body = some current ∧ current.online = true ∧
      call.presented = some (some current.session_id)

theorem Orderly.fenced {session : EmbodimentSession} {issued : List String}
    (h : Orderly session.connections issued) : Fenced session issued where
  never_reused := h.nodup
  own_session id current hid := ⟨h.keyed id current hid, h.owned id current hid⟩
  one_current id id' current current' hid hid' hsame := by
    have hids : id = id' := by
      rcases hsame with hsame | hsame
      · rw [← h.keyed id current hid, hsame, h.keyed id' current' hid']
      · exact h.distinct id id' current current' hid hid' hsame
    subst hids
    exact ⟨rfl, Option.some.inj (hid.symm.trans hid')⟩
  new_id call body hchanged := by
    obtain ⟨hbody, hpresented, session_id, hissued, hlookup⟩ := session_id_changed hchanged
    have hnodup := (orderly_step h call).nodup
    simp only [step, hissued, Option.toList_some, List.singleton_append, List.nodup_cons] at hnodup
    exact ⟨hbody, hpresented, session_id, hnodup.1, hissued, hlookup⟩
  stale_refused call session_id := raised_of_not_admitted
  offline_bare := h.bare
  telemetry_fenced call body := telemetry_changed

/-- **Session fencing.**  After any calls on a session object with no sessions yet, ids
are never reused, one session of a body is current, calls under another id or an
offline session raise and change nothing, and telemetry changes under the id of the
online session only. -/
theorem runs_fenced (catalog : EmbodimentCatalog) (instance_id : String)
    (presence : EmbodimentPresence) (calls : List SessionCall) :
    Fenced (run ⟨catalog, ⟨∅, 0, instance_id⟩, presence⟩ calls).1
      (run ⟨catalog, ⟨∅, 0, instance_id⟩, presence⟩ calls).2 :=
  (orderly_run _ calls rfl).fenced

end EmbodimentSession
end HomeCortex
