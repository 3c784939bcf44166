/-
# The session of a body

`agents/session.py`.  `EmbodimentSession` puts the catalog, the connections and the
presence together: a client registers, refreshes its capabilities, sends heartbeats
and telemetry under the id it was given, and disconnects.  The object holds one lock
for each call, so calls run one after another (`perform`).  `datetime.now` is read
once or twice in a call, and what it reads is part of the call.  The mappings that
the methods return are structures here, with instants in place of their texts.
-/

import HomeCortex.Agents.Connections

namespace HomeCortex

open Spatial

/-- `EmbodimentSession` with the objects it holds. -/
structure EmbodimentSession where
  catalog : EmbodimentCatalog
  connections : EmbodimentConnections
  presence : EmbodimentPresence

/-- What `view` returns. -/
structure EmbodimentView where
  embodiment_id : String
  agent_id : Option String
  configured_capabilities : List String
  session : Option RuntimeSession
  disposition : Option SessionDisposition
deriving DecidableEq

/-- What `submit_telemetry` receives. -/
inductive TelemetrySample where
  | mapping (value : Json)
  | parsed (telemetry : PhysicalTelemetry)

/-- The sample as telemetry. -/
def TelemetrySample.parse : TelemetrySample → Except PyError PhysicalTelemetry
  | .mapping value => physicalTelemetryFromMapping value
  | .parsed telemetry => .ok telemetry

/-- A method call. -/
inductive SessionCall where
  | noteResolved (body : Embodiment)
  | register (embodiment_id : String) (available : Json) (now : Option Timestamp) (clock : Int)
  | updateCapabilities (embodiment_id : String) (available : Json) (session_id : Option String)
      (now : Option Timestamp) (clock : Int)
  | heartbeat (embodiment_id : String) (session_id : Option String) (now : Option Timestamp)
      (clock : Int)
  | disconnect (embodiment_id : String) (session_id : Option String) (now : Option Timestamp)
      (clock : Int)
  | submitTelemetry (sample : TelemetrySample) (session_id : Option String)
      (now : Option Timestamp) (clock clock' : Int)

/-- What a call returns. -/
inductive SessionAnswer where
  | done
  | view (view : EmbodimentView)
  | admitted (telemetry : TelemetryAdmission) (presence : EmbodimentView)
deriving DecidableEq

/-- A computation on the session. -/
abbrev SessionM := Raising EmbodimentSession PyError

namespace EmbodimentSession

/-- A method of the catalog. -/
def onCatalog {α : Type} : Raising EmbodimentCatalog PyError α → SessionM α :=
  Raising.zoom catalog fun catalog session => { session with catalog := catalog }

/-- A method of the connections. -/
def onConnections {α : Type} : Raising EmbodimentConnections PyError α → SessionM α :=
  Raising.zoom connections fun connections session => { session with connections := connections }

/-- A method of the presence. -/
def onPresence {α : Type} : Raising EmbodimentPresence PyError α → SessionM α :=
  Raising.zoom presence fun presence session => { session with presence := presence }

/-- `_require_known`. -/
def requireKnown (session : EmbodimentSession) (embodiment_id : String) :
    Except PyError Embodiment :=
  match session.catalog.get embodiment_id with
  | .error (.spatialContract message) => .error (.sessionProtocol "unknown_embodiment" message)
  | result => result

/-- `_require_current`. -/
def requireCurrent (session : EmbodimentSession) (embodiment_id : String)
    (session_id : Option String) (allow_offline : Bool) : Except PyError Unit := do
  let offline := PyError.sessionProtocol "session_offline"
    "operation requires an online runtime session"
  match ← session.connections.current embodiment_id with
  | none => throw offline
  | some current =>
      raiseIf (!current.online && !allow_offline) offline
      raiseIf (session_id != some current.session_id)
        (.sessionProtocol "stale_session" "session id is not current")

/-- `view`. -/
def view (session : EmbodimentSession) (embodiment_id : String) (change : Option SessionChange) :
    Except PyError EmbodimentView := do
  let body ← session.requireKnown embodiment_id
  let current ← session.connections.current embodiment_id
  return ⟨body.id, body.agent_id, body.capabilities, current, change.map SessionChange.disposition⟩

/-- `except TelemetryAdmissionError as error: raise SessionProtocolError(…)`. -/
def asProtocolError : PyError → PyError
  | .telemetryAdmission code message => .sessionProtocol code message
  | error => error

/-- `note_resolved`. -/
def noteResolved (body : Embodiment) : SessionM SessionAnswer := do
  onCatalog (EmbodimentCatalog.cacheResolved body)
  onPresence (EmbodimentPresence.registerEmbodiment body.id)
  return .done

/-- `register`. -/
def register (embodiment_id : String) (available : Json) (now : Option Timestamp) (clock : Int) :
    SessionM SessionAnswer := do
  let session ← get
  let _ ← session.requireKnown embodiment_id
  let change ← onConnections
    (EmbodimentConnections.connect session.catalog embodiment_id available now clock)
  return .view (← (← get).view embodiment_id (some change))

/-- `update_capabilities`. -/
def updateCapabilities (embodiment_id : String) (available : Json) (session_id : Option String)
    (now : Option Timestamp) (clock : Int) : SessionM SessionAnswer := do
  let session ← get
  let _ ← session.requireKnown embodiment_id
  session.requireCurrent embodiment_id session_id false
  let change ← onConnections
    (EmbodimentConnections.updateCapabilities session.catalog embodiment_id available now clock)
  return .view (← (← get).view embodiment_id (some change))

/-- `heartbeat`. -/
def heartbeat (embodiment_id : String) (session_id : Option String) (now : Option Timestamp)
    (clock : Int) : SessionM SessionAnswer := do
  let session ← get
  let _ ← session.requireKnown embodiment_id
  session.requireCurrent embodiment_id session_id false
  let change ← onConnections
    (EmbodimentConnections.heartbeat session.catalog embodiment_id now clock)
  return .view (← (← get).view embodiment_id (some change))

/-- `disconnect`. -/
def disconnect (embodiment_id : String) (session_id : Option String) (now : Option Timestamp)
    (clock : Int) : SessionM SessionAnswer := do
  let session ← get
  let _ ← session.requireKnown embodiment_id
  session.requireCurrent embodiment_id session_id true
  let change ← onConnections
    (EmbodimentConnections.disconnect session.catalog embodiment_id now clock)
  return .view (← (← get).view embodiment_id (some change))

/-- `submit_telemetry`. -/
def submitTelemetry (sample : TelemetrySample) (session_id : Option String)
    (now : Option Timestamp) (clock clock' : Int) : SessionM SessionAnswer := do
  let parsed ← sample.parse
  let session ← get
  let _ ← session.requireKnown parsed.embodiment_id
  session.requireCurrent parsed.embodiment_id session_id false
  let admission ← Raising.mapError asProtocolError
    (onPresence (EmbodimentPresence.submit parsed now clock))
  let _ ← onConnections
    (EmbodimentConnections.heartbeat session.catalog parsed.embodiment_id now clock')
  return .admitted admission (← (← get).view parsed.embodiment_id none)

/-- One method call. -/
def perform : SessionCall → SessionM SessionAnswer
  | .noteResolved body => noteResolved body
  | .register embodiment_id available now clock => register embodiment_id available now clock
  | .updateCapabilities embodiment_id available session_id now clock =>
      updateCapabilities embodiment_id available session_id now clock
  | .heartbeat embodiment_id session_id now clock => heartbeat embodiment_id session_id now clock
  | .disconnect embodiment_id session_id now clock => disconnect embodiment_id session_id now clock
  | .submitTelemetry sample session_id now clock clock' =>
      submitTelemetry sample session_id now clock clock'

end EmbodimentSession
end HomeCortex
