/-
# Reading the household's calendars

`CalendarService` (`capabilities/calendar.py`) lists the events of the calendars that a caller
may read, and checks whether a window is free.  Each selected calendar is loaded from the
provider on its own; what could not be loaded, or not to the end, is named in the result.  The
provider is Google's: `readPages` asks for one page of events after another until there is no
further page, enough events are there, the service fails, or the time is up.

The service at the other end is a list of `Answer`s, one for each request that fits into the
time there is: what it answers at that moment to whatever it is asked, or that it is
unavailable.  The zone database is a parameter, `zones`.
-/

import HomeCortex.Common.Clock
import HomeCortex.Common.Display
import HomeCortex.Common.Order
import HomeCortex.Library.ComparisonSort

namespace HomeCortex
namespace Calendar

/-! ### Aware datetimes -/

/-- `tzinfo`: a fixed offset, or the zone of a key in the zone database. -/
inductive Tz where
  | fixed (offset : Int)
  | named (key : String) (zone : Zone)

def Tz.utcoffset (tz : Tz) (wall : Int) (fold : Bool) : Int :=
  match tz with
  | .fixed offset => offset
  | .named _ zone => zone.wall_offset wall fold

/-- `a is b`: a zone is cached by its key; two fixed offsets compare like two zones. -/
def Tz.same : Tz → Tz → Bool
  | .named a _, .named b _ => a == b
  | _, _ => false

/-- An aware `datetime` with `fold=0`. -/
structure Aware where
  wall : WallTime
  tzinfo : Tz

namespace Aware

def offset (a : Aware) : Int := a.tzinfo.utcoffset a.wall.value false

def instant (a : Aware) : Int := a.wall.value - a.offset

/-- `_isoformat`. -/
def isoformat (a : Aware) : String := a.wall.isoformat a.offset

/-- The offset depends on `fold`: the wall time is repeated or skipped. -/
def foldMatters (a : Aware) : Bool := a.tzinfo.utcoffset a.wall.value true != a.offset

/-- `a == b`; across zones no time equals one whose offset depends on `fold`. -/
def eq (a b : Aware) : Bool :=
  if a.tzinfo.same b.tzinfo then a.wall.value == b.wall.value
  else !a.foldMatters && !b.foldMatters && a.instant == b.instant

/-- `a < b`: by the clocks within one zone, by the instants across zones. -/
def lt (a b : Aware) : Bool :=
  if a.tzinfo.same b.tzinfo then a.wall.value < b.wall.value else a.instant < b.instant

/-- `a <= b`. -/
def le (a b : Aware) : Bool :=
  if a.tzinfo.same b.tzinfo then a.wall.value ≤ b.wall.value else a.instant ≤ b.instant

end Aware

/-- The exceptions of this part of the program. -/
inductive Raised where
  | authorization (message : String)
  | unavailable (message : String)
  | timeout
  | zoneNotFound
  | osError
  | python (error : PyError)
deriving DecidableEq

/-- `ZoneInfo(key)`. -/
abbrev Zones := String → Except Raised Zone

/-- `isinstance(value, str) and value`. -/
def nonEmpty? : Json → Option String
  | .str text => if text = "" then none else some text
  | _ => none

/-- `value.strip()` where `isinstance(value, str) and value.strip()`. -/
def stripped? : Json → Option String
  | .str text => if Display.strip text = "" then none else some (Display.strip text)
  | _ => none

/-- `text[:-1] + "+00:00" if text.endswith("Z") else text`. -/
def zuluOffset (text : String) : String :=
  if text.toList.getLast? = some 'Z' then String.ofList text.toList.dropLast ++ "+00:00" else text

/-! ### The window of a request -/

/-- `_is_date_only`. -/
def isDateOnly (value : String) : Bool :=
  (dateFromIsoformat value).isSome && !value.toList.contains 'T' && !value.toList.contains ' '

/-- `parse_calendar_datetime`. -/
def parseCalendarDatetime (value : String) (default_timezone : Tz) : Except Raised Aware :=
  let text := Display.strip value
  if text = "" then .error (.python (.value "Date-time value cannot be empty"))
  else if isDateOnly text then
    match dateFromIsoformat text with
    | some date => .ok ⟨⟨date, 0⟩, default_timezone⟩
    | none => .error (.python (.value s!"Invalid isoformat string: {Json.reprText text}"))
  else
    match datetimeFromIsoformat (zuluOffset text) with
    | none => .error (.python (.value "Date-time value must be an ISO 8601 date or datetime"))
    | some parsed =>
        .ok ⟨⟨parsed.date, parsed.micros⟩, (parsed.offset.map Tz.fixed).getD default_timezone⟩

/-- `value + timedelta(days=1)`. -/
def Aware.nextDay (a : Aware) : Except Raised Aware :=
  match a.wall.date.addDays 1 with
  | .ok date => .ok ⟨⟨date, a.wall.micros⟩, a.tzinfo⟩
  | .error error => .error (.python error)

/-- `CalendarService._parse_window`. -/
def parseWindow (default_timezone : Tz) (start end_at : String) :
    Except Raised (Aware × Aware) := do
  let window_start ← parseCalendarDatetime start default_timezone
  let window_end ← parseCalendarDatetime end_at default_timezone
  let window_end ← if window_end.le window_start && isDateOnly (Display.strip end_at) then
    window_end.nextDay else .ok window_end
  if window_end.le window_start then throw (.python (.value "end must be after start"))
  return (window_start, window_end)

/-! ### Events -/

/-- `ProviderEvent`, with aware times. -/
structure ProviderEvent where
  provider_event_id : String
  title : String
  start : Aware
  end_at : Aware
  timezone : String
  all_day : Bool
  status : String
  location : Option String
  busy : Bool

/-- `ProviderEventBatch`. -/
structure ProviderEventBatch where
  events : List ProviderEvent
  complete : Bool

/-- `_google_boundary`: a time, its zone's name, and whether it is a whole day. -/
def googleBoundary (zones : Zones) (default_timezone : String) (payload : Json) :
    Except Raised (Option (Aware × String × Bool)) := do
  let some fields := payload.asObject? | return none
  let zone_name := (nonEmpty? (fields.getD "timeZone")).getD default_timezone
  match nonEmpty? (fields.getD "dateTime") with
  | some date_time =>
      match datetimeFromIsoformat (zuluOffset date_time) with
      | none => return none
      | some parsed =>
          let wall : WallTime := ⟨parsed.date, parsed.micros⟩
          match parsed.offset with
          | some offset => return some (⟨wall, .fixed offset⟩, zone_name, false)
          | none =>
              match zones zone_name with
              | .ok zone => return some (⟨wall, .named zone_name zone⟩, zone_name, false)
              | .error .zoneNotFound =>
                  let zone ← zones default_timezone
                  return some (⟨wall, .named default_timezone zone⟩, default_timezone, false)
              | .error error => throw error
  | none =>
      match nonEmpty? (fields.getD "date") with
      | none => return none
      | some date_value =>
          match dateFromIsoformat date_value with
          | none => return none
          | some date =>
              match zones zone_name with
              | .ok zone => return some (⟨⟨date, 0⟩, .named zone_name zone⟩, zone_name, true)
              | .error .zoneNotFound => return none
              | .error (.python (.value _)) => return none
              | .error error => throw error

/-- `first or second or default`. -/
def firstName (first second default : String) : String :=
  if first ≠ "" then first else if second ≠ "" then second else default

/-- `normalize_google_event`. -/
def normalizeGoogleEvent (zones : Zones) (default_timezone : String) (item : Fields) :
    Except Raised (Option ProviderEvent) := do
  let some event_id := nonEmpty? (item.getD "id") | return none
  if item.getD "status" = .str "cancelled" then return none
  let start ← googleBoundary zones default_timezone (item.getD "start")
  let end_at ← googleBoundary zones default_timezone (item.getD "end")
  match start, end_at with
  | some (start_at, start_tz, start_all_day), some (end_at, end_tz, end_all_day) =>
      return some
        { provider_event_id := event_id
          title := (stripped? (item.getD "summary")).getD "(untitled)"
          start := start_at
          end_at := end_at
          timezone := firstName start_tz end_tz default_timezone
          all_day := start_all_day || end_all_day
          status := (nonEmpty? (item.getD "status")).getD "confirmed"
          location := stripped? (item.getD "location")
          busy := item.getD "transparency" ≠ .str "transparent" }
  | _, _ => return none

/-! ### Google's pages -/

def MAX_EVENT_LIMIT : Nat := 100

def DEFAULT_EVENT_LIMIT : Nat := 25

/-- The message of `CalendarUnavailableError` when a read fails. -/
def unavailable : Raised := .unavailable "The calendar service is temporarily unavailable"

/-- What `_get_events` asks for. -/
structure PageRequest where
  limit : Nat
  page_token : Option String

/-- The `maxResults` of a request. -/
def PageRequest.maxResults (request : PageRequest) : Nat :=
  min (max request.limit 1) MAX_EVENT_LIMIT

/-- How the service answers at one moment; `none` when it is unavailable. -/
abbrev Answer := PageRequest → Option Fields

/-- The `items` of a page. -/
def pageItems (page : Fields) : List Json :=
  match page.getD "items" with
  | .arr items => items
  | _ => []

/-- The `nextPageToken` of a page. -/
def nextPageToken (page : Fields) : Option String := nonEmpty? (page.getD "nextPageToken")

section Google

variable (zones : Zones) (default_timezone : String) (limit : Nat)

/-- The event of an item of a page, if there is one. -/
def itemEvent (item : Json) : Except Raised (Option ProviderEvent) :=
  match item with
  | .obj fields => normalizeGoogleEvent zones default_timezone fields
  | _ => .ok none

/-- Add the events of the items, up to the limit. -/
def takeItems (events : List ProviderEvent) : List Json → Except Raised (List ProviderEvent)
  | [] => .ok events
  | item :: items => do
      match ← itemEvent zones default_timezone item with
      | none => takeItems events items
      | some event =>
          if limit ≤ (events ++ [event]).length then return events ++ [event]
          else takeItems (events ++ [event]) items

/-- `GoogleCalendarProvider.list_events` from what it has read so far; the time is up when
there are no answers left. -/
def readPages (events : List ProviderEvent) (page_token : Option String)
    (seen_page_tokens : List String) : List Answer → Except Raised ProviderEventBatch
  | [] => .ok ⟨events, decide (limit ≤ events.length)⟩
  | answer :: answers =>
      if limit ≤ events.length then .ok ⟨events, true⟩
      else
        match answer ⟨limit - events.length, page_token⟩ with
        | none => if events.isEmpty then .error unavailable else .ok ⟨events, false⟩
        | some payload => do
            let events ← takeItems zones default_timezone limit events (pageItems payload)
            match nextPageToken payload with
            | none => return ⟨events, true⟩
            | some next =>
                if next ∈ seen_page_tokens then throw unavailable
                else if limit ≤ events.length then return ⟨events, false⟩
                else readPages events (some next) (next :: seen_page_tokens) answers

/-- `GoogleCalendarProvider.list_events`. -/
def googleListEvents (answers : List Answer) : Except Raised ProviderEventBatch :=
  readPages zones default_timezone limit [] none [] answers

end Google

/-! ### The service -/

/-- `CalendarBinding`. -/
structure CalendarBinding where
  id : String
  person_id : String
  provider_calendar_id : String
  readers : List String
deriving DecidableEq

def CalendarBinding.readableBy (binding : CalendarBinding) (caller_entity_id : String) : Bool :=
  caller_entity_id == binding.person_id || caller_entity_id ∈ binding.readers

/-- `CalendarService`: no two bindings share an id. -/
structure CalendarService where
  bindings : List CalendarBinding
  default_timezone : String
  default_zone : Zone
  unique : (bindings.map CalendarBinding.id).Nodup

def CalendarService.tz (service : CalendarService) : Tz :=
  .named service.default_timezone service.default_zone

/-- `provider.list_events` for one binding, within the binding's time. -/
abbrev Provider := CalendarBinding → Aware → Aware → Nat → Except Raised ProviderEventBatch

/-- `_cortex_event`. -/
structure CortexEvent where
  id : String
  calendar_id : String
  person_id : String
  title : String
  start : String
  end_at : String
  timezone : String
  all_day : Bool
  status : String
  location : Option String
  busy : Bool
deriving DecidableEq

def cortexEvent (binding : CalendarBinding) (event : ProviderEvent) : CortexEvent :=
  { id := binding.id ++ ":" ++ event.provider_event_id
    calendar_id := binding.id
    person_id := binding.person_id
    title := event.title
    start := event.start.isoformat
    end_at := event.end_at.isoformat
    timezone := event.timezone
    all_day := event.all_day
    status := event.status
    location := event.location
    busy := event.busy }

/-- What `_load_binding` returns. -/
structure Loaded where
  binding : CalendarBinding
  events : List ProviderEvent
  failed_id : Option String
  truncated_id : Option String

/-- `_load_binding`. -/
def loadBinding (provider : Provider) (window : Aware × Aware) (event_limit : Nat)
    (binding : CalendarBinding) : Except Raised Loaded :=
  match provider binding window.1 window.2 event_limit with
  | .error (.unavailable _) => .ok ⟨binding, [], some binding.id, none⟩
  | .error .timeout => .ok ⟨binding, [], some binding.id, none⟩
  | .error error => .error error
  | .ok batch =>
      .ok ⟨binding, batch.events, none, if batch.complete then none else some binding.id⟩

/-- `(start, id, record)`; records are compared last and have no order. -/
abbrev Keyed := Aware × CortexEvent

def keyedLt (a b : Keyed) : Except Raised Bool :=
  if a.1.eq b.1 then
    if a.2.id = b.2.id then
      if a.2 = b.2 then .ok false
      else .error (.python (.type "'<' not supported between instances of 'dict' and 'dict'"))
    else .ok (a.2.id < b.2.id)
  else .ok (a.1.lt b.1)

/-- The events of a loaded calendar with their keys. -/
def Loaded.keyed (loaded : Loaded) : List Keyed :=
  if loaded.failed_id.isSome then []
  else loaded.events.map fun event => (event.start, cortexEvent loaded.binding event)

def Loaded.fetched? (loaded : Loaded) : Option String :=
  if loaded.failed_id.isSome then none else some loaded.binding.id

/-- The result of `list_events`. -/
structure Listing where
  start : String
  end_at : String
  timezone : String
  calendars : List String
  events : List CortexEvent
  complete : Bool
  unavailable_calendars : List String
  truncated_calendars : List String
deriving DecidableEq

/-- The calendar and the person that a request names. -/
structure Selection where
  calendar_id : Option String
  person_id : Option String

def Selection.admits (selection : Selection) (binding : CalendarBinding) : Bool :=
  selection.calendar_id.all (binding.id == ·) && selection.person_id.all (binding.person_id == ·)

namespace CalendarService

variable (service : CalendarService) (provider : Provider)

/-- `_authorized_calendars`. -/
def authorizedCalendars (caller_entity_id : Option String) (selection : Selection) :
    Except Raised (List CalendarBinding) :=
  match caller_entity_id with
  | none =>
      .error (.authorization "Calendar access requires an authenticated household identity")
  | some caller =>
      let accessible :=
        (service.bindings.filter (·.readableBy caller)).filter selection.admits
      if accessible.isEmpty then
        .error (.authorization "The requested calendar is not authorized for the caller")
      else .ok accessible

/-- The listing of what was loaded. -/
def assemble (window : Aware × Aware) (event_limit : Nat) (loaded : List Loaded) :
    Except Raised Listing := do
  let unavailable_calendars := loaded.filterMap Loaded.failed_id
  let truncated := loaded.filterMap Loaded.truncated_id
  let fetched := loaded.filterMap Loaded.fetched?
  if fetched.isEmpty && !unavailable_calendars.isEmpty then throw unavailable
  let keyed ← ComparisonSort.sort keyedLt (loaded.flatMap Loaded.keyed)
  return {
    start := window.1.isoformat
    end_at := window.2.isoformat
    timezone := service.default_timezone
    calendars := fetched
    events := (keyed.take event_limit).map Prod.snd
    complete := unavailable_calendars.isEmpty && truncated.isEmpty &&
      decide (keyed.length ≤ event_limit)
    unavailable_calendars := unavailable_calendars
    truncated_calendars := truncated }

/-- `list_events`. -/
def listEvents (start end_at : String) (selection : Selection) (limit : Option Nat)
    (caller_entity_id : Option String) : Except Raised Listing := do
  let window ← parseWindow service.tz start end_at
  let selected ← service.authorizedCalendars caller_entity_id selection
  let event_limit := limit.getD DEFAULT_EVENT_LIMIT
  let loaded ← selected.mapM (loadBinding provider window event_limit)
  service.assemble window event_limit loaded

end CalendarService

/-- One of the `conflicts` of `check_availability`. -/
structure Conflict where
  id : String
  calendar_id : String
  person_id : String
  title : String
  start : String
  end_at : String
  timezone : String
  all_day : Bool
deriving DecidableEq

def conflictOf (event : CortexEvent) : Conflict :=
  ⟨event.id, event.calendar_id, event.person_id, event.title, event.start, event.end_at,
    event.timezone, event.all_day⟩

/-- `event["busy"] and event["status"] != "cancelled"`. -/
def CortexEvent.conflicts (event : CortexEvent) : Bool := event.busy && event.status != "cancelled"

/-- The result of `check_availability`. -/
structure Availability where
  start : String
  end_at : String
  timezone : String
  calendars : List String
  checked : Bool
  available : Bool
  conflicts : List Conflict
  unavailable_calendars : List String
  truncated_calendars : List String
deriving DecidableEq

/-- What a listing says about the window. -/
def availabilityOf (listing : Listing) : Availability :=
  let conflicts := (listing.events.filter CortexEvent.conflicts).map conflictOf
  { start := listing.start
    end_at := listing.end_at
    timezone := listing.timezone
    calendars := listing.calendars
    checked := listing.complete
    available := listing.complete && conflicts.isEmpty
    conflicts := conflicts
    unavailable_calendars := listing.unavailable_calendars
    truncated_calendars := listing.truncated_calendars }

/-- `check_availability`. -/
def CalendarService.checkAvailability (service : CalendarService) (provider : Provider)
    (start end_at : String) (selection : Selection) (caller_entity_id : Option String) :
    Except Raised Availability :=
  (service.listEvents provider start end_at selection (some MAX_EVENT_LIMIT)
    caller_entity_id).map availabilityOf

/-- Google as the provider of a service: what it answers for each binding and window, unless
the binding's time is up first. -/
def googleProvider (zones : Zones) (default_timezone : String)
    (answers : CalendarBinding → Aware → Aware → Option (List Answer)) : Provider :=
  fun binding start end_at limit =>
    match answers binding start end_at with
    | none => .error .timeout
    | some answers => googleListEvents zones default_timezone limit answers

end Calendar
end HomeCortex
