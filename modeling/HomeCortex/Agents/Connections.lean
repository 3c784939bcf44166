/-
# Bodies and their runtime sessions

`agents/embodiments.py`.  `EmbodimentCatalog` mirrors what the graph says of bodies;
`EmbodimentConnections` keeps at most one session for each of them.  A session id is
made of the identity of the process and a counter.  The methods of the connections
read the catalog, which is an argument of them here.
-/

import HomeCortex.Spatial.Presence

namespace HomeCortex

open Spatial

/-- `EmbodimentCatalog`. -/
structure EmbodimentCatalog where
  records : Table String Embodiment
  known_agent_ids : Finset String

namespace EmbodimentCatalog

/-- `get`. -/
def get (catalog : EmbodimentCatalog) (embodiment_id : String) : Except PyError Embodiment := do
  let _ ← typedId (.str embodiment_id) "embodiment" "embodiment_id"
  match catalog.records.lookup embodiment_id with
  | some body => return body
  | none => throw (.spatialContract ("unknown embodiment '" ++ embodiment_id ++ "'"))

/-- The constructor. -/
def ofBodies (embodiments : List Embodiment) (agents : List String) :
    Except PyError EmbodimentCatalog := do
  let known ← agents.mapM fun agent => typedId (.str agent) "agent" "agent_id"
  let records ← embodiments.foldlM (fun (records : Table String Embodiment) body => do
    raiseIf (records.lookup body.id).isSome
      (.spatialContract ("duplicate embodiment '" ++ body.id ++ "'"))
    raiseIf (body.agent_id.any fun agent => !known.contains agent)
      (.spatialContract ("unknown controlling agent '" ++ body.agent_id.getD "" ++ "'"))
    return records.insert body.id body) ∅
  return ⟨records, known.toFinset⟩

/-- `cache_resolved`. -/
def cacheResolved (body : Embodiment) : Raising EmbodimentCatalog PyError Unit := do
  match body.agent_id with
  | some agent_id =>
      let agent ← typedId (.str agent_id) "agent" "embodiment.agent_id"
      modify fun catalog =>
        { catalog with known_agent_ids := insert agent catalog.known_agent_ids }
  | none => pure ()
  modify fun catalog => { catalog with records := catalog.records.insert body.id body }

end EmbodimentCatalog

/-- `RuntimeSession`. -/
structure RuntimeSession where
  embodiment_id : String
  session_id : String
  online : Bool
  connected_at : Int
  last_seen : Int
  available_capabilities : Finset String
deriving DecidableEq

/-- The values of `disposition` of a session change. -/
inductive SessionDisposition where
  | replaced
  | connected
  | capabilities
  | heartbeat
  | disconnected
deriving DecidableEq, Repr

/-- `SessionChange`. -/
structure SessionChange where
  disposition : SessionDisposition
  session : RuntimeSession
deriving DecidableEq

/-- `EmbodimentConnections`. -/
structure EmbodimentConnections where
  sessions : Table String RuntimeSession
  sequence : Nat
  instance_id : String

/-- A name in a collection of capabilities; lists and dicts cannot be in a set. -/
def capabilityText : Json → Except PyError String
  | .str name => .ok name
  | .arr _ => .error (.type "unhashable type: 'list'")
  | .obj _ => .error (.type "unhashable type: 'dict'")
  | _ => .error (.sessionProtocol "invalid_capabilities"
      "available capabilities must be a list of names")

/-- The names of a collection; the exception about one that is no text comes after
the set is built. -/
def capabilityTexts (items : List Json) : Except PyError (List String) := do
  match items.find? fun item => (match item with | .arr _ | .obj _ => true | _ => false) with
  | some item => let _ ← capabilityText item
  | none => pure ()
  items.mapM capabilityText

/-- The runtime capabilities are among those of the body. -/
def configured (body : Embodiment) (names : List String) : Except PyError (Finset String) := do
  raiseIf (!decide (names.toFinset ⊆ body.capabilities.toFinset))
    (.sessionProtocol "capability_not_configured"
      "runtime capabilities must be configured on the embodiment")
  return names.toFinset

/-- `_subset`; a dict is the collection of its keys. -/
def activeSubset (body : Embodiment) (available : Json) : Except PyError (Finset String) :=
  match available with
  | .null => .ok body.capabilities.toFinset
  | .arr items => do configured body (← capabilityTexts items)
  | .obj fields => configured body (fields.map Prod.fst)
  | _ => .error (.sessionProtocol "invalid_capabilities"
      "available capabilities must be a list of names")

namespace EmbodimentConnections

/-- The id of the session with a number. -/
def sessionId (instance_id : String) (sequence : Nat) : String :=
  "runtime-session:" ++ instance_id ++ ":" ++ toString sequence

/-- `self._sessions[embodiment_id] = session`. -/
def put (embodiment_id : String) (session : RuntimeSession)
    (connections : EmbodimentConnections) : EmbodimentConnections :=
  { connections with sessions := connections.sessions.insert embodiment_id session }

/-- `connect`: open a session; a second one while online replaces the first. -/
def connect (catalog : EmbodimentCatalog) (embodiment_id : String) (available : Json)
    (now : Option Timestamp) (clock : Int) :
    Raising EmbodimentConnections PyError SessionChange := do
  let body ← catalog.get embodiment_id
  let active ← activeSubset body available
  let observed ← observed now clock
  let connections ← get
  let previous := connections.sessions.lookup embodiment_id
  let disposition := if previous.any RuntimeSession.online then .replaced else .connected
  let sequence := connections.sequence + 1
  let session : RuntimeSession :=
    ⟨embodiment_id, sessionId connections.instance_id sequence, true, observed, observed, active⟩
  modify fun connections => { connections.put embodiment_id session with sequence := sequence }
  return ⟨disposition, session⟩

/-- `_require_online`: a session of the body, online or not. -/
def requireOnline (connections : EmbodimentConnections) (embodiment_id : String) :
    Except PyError RuntimeSession :=
  match connections.sessions.lookup embodiment_id with
  | some session => .ok session
  | none => .error (.sessionProtocol "session_offline" "runtime session is offline")

/-- `_touch`. -/
def touch (embodiment_id : String) (now : Option Timestamp) (clock : Int)
    (disposition : SessionDisposition) (available : Option (Finset String)) :
    Raising EmbodimentConnections PyError SessionChange := do
  let observed ← observed now clock
  let previous ← (← get).requireOnline embodiment_id
  raiseIf (!previous.online) (.sessionProtocol "session_offline" "runtime session is offline")
  let session := { previous with
    last_seen := observed
    available_capabilities := available.getD previous.available_capabilities }
  modify (put embodiment_id session)
  return ⟨disposition, session⟩

/-- `update_capabilities`. -/
def updateCapabilities (catalog : EmbodimentCatalog) (embodiment_id : String) (available : Json)
    (now : Option Timestamp) (clock : Int) :
    Raising EmbodimentConnections PyError SessionChange := do
  let body ← catalog.get embodiment_id
  let active ← activeSubset body available
  touch embodiment_id now clock .capabilities (some active)

/-- `heartbeat`. -/
def heartbeat (catalog : EmbodimentCatalog) (embodiment_id : String) (now : Option Timestamp)
    (clock : Int) : Raising EmbodimentConnections PyError SessionChange := do
  let _ ← catalog.get embodiment_id
  touch embodiment_id now clock .heartbeat none

/-- `disconnect`. -/
def disconnect (catalog : EmbodimentCatalog) (embodiment_id : String) (now : Option Timestamp)
    (clock : Int) : Raising EmbodimentConnections PyError SessionChange := do
  let _ ← catalog.get embodiment_id
  let observed ← observed now clock
  let previous ← (← get).requireOnline embodiment_id
  if previous.online then
    let session := { previous with
      online := false, last_seen := observed, available_capabilities := ∅ }
    modify (put embodiment_id session)
    return ⟨.disconnected, session⟩
  else return ⟨.disconnected, previous⟩

/-- `current`. -/
def current (connections : EmbodimentConnections) (embodiment_id : String) :
    Except PyError (Option RuntimeSession) := do
  let parsed ← typedId (.str embodiment_id) "embodiment" "embodiment_id"
  return connections.sessions.lookup parsed

end EmbodimentConnections
end HomeCortex
