/-
# Metadata of media files

`home_media/metadata.py`: what `probe` makes of a photo that Pillow has opened or of a video
whose streams `ffprobe` has listed.  The capture time is the first time text that can be read,
or the modification time; either is moved to UTC, so a capture time is a UTC time of the
calendar.  `UtcTime` is such a time, and its text in the index sorts as the time does.

How a text is read, `datetime.fromisoformat` and `datetime.strptime`, and the offset of a time
without one, `datetime.astimezone` on the machine, are parameters.
-/

import HomeCortex.Common.DatetimeTexts
import HomeCortex.Common.Display

namespace HomeCortex
namespace Media

/-- `MediaType`; it is also the `source` of a file, the root it is found under. -/
inductive MediaType where
  | photo | video
deriving DecidableEq, Repr

/-! ### Times in UTC -/

/-- A `datetime` in UTC. -/
structure UtcTime where
  wall : WallTime
  micros_range : wall.micros < dayMicros
deriving DecidableEq

theorem micros_lt (value : Int) : (value % dayMicros).toNat < dayMicros := by
  have hday : (dayMicros : Int) = 86400000000 := rfl
  have hlt := Int.emod_lt_of_pos value (show (0 : Int) < dayMicros by rw [hday]; decide)
  omega

namespace UtcTime

/-- Microseconds since midnight of 1 January of year 1. -/
def value (time : UtcTime) : Int := time.wall.value

/-- The UTC time of that many microseconds, where the calendar has it. -/
def ofValue (value : Int) : Option UtcTime :=
  (dateOfOrdinal (value / dayMicros + 1).toNat).map fun date =>
    ⟨⟨date, (value % dayMicros).toNat⟩, micros_lt value⟩

/-- `datetime.isoformat`. -/
def isoformat (time : UtcTime) : String := time.wall.isoformat 0

end UtcTime

/-! ### What goes wrong -/

/-- An exception by the name of its class, where `probe` catches it and where it does not. -/
inductive ProbeError where
  | caught (type : String)
  | uncaught (type : String)
deriving DecidableEq, Repr

/-! ### Capture times -/

/-- What reading a time rests on. -/
structure TimeReading where
  /-- The three parsers in their order; `none` is a `ValueError`. -/
  parsers : List (String → Option PyDatetime)
  /-- The offset that `astimezone()` finds for a time without one, or what it raises. -/
  local_offset : PyDatetime → Except ProbeError Int

section CaptureTimes

variable (reading : TimeReading)

/-- `parsed.astimezone(timezone.utc)`, an offset being found first where there is none. -/
def toUtc (parsed : PyDatetime) : Except ProbeError UtcTime := do
  let offset ← match parsed.offset with
    | some offset => pure offset
    | none => reading.local_offset parsed
  match UtcTime.ofValue (parsed.localMicros - offset) with
  | some time => return time
  | none => throw (.uncaught "OverflowError")

/-- The parsers are tried in turn; only a `ValueError` leads to the next one. -/
def firstParsed (cleaned : String) :
    List (String → Option PyDatetime) → Except ProbeError (Option UtcTime)
  | [] => return none
  | parser :: parsers =>
      match parser cleaned with
      | none => firstParsed cleaned parsers
      | some parsed =>
          match toUtc reading parsed with
          | .ok time => return some time
          | .error error =>
              if error = .caught "ValueError" then firstParsed cleaned parsers else throw error

/-- `_parse_datetime`; a value that is no text is `none`. -/
def parseDatetime (value : Option String) : Except ProbeError (Option UtcTime) :=
  match value with
  | none => return none
  | some value =>
      if isBlank value then return none
      else
        let cleaned := String.ofList ((Display.strip value).toList.flatMap fun c =>
          if c = 'Z' then "+00:00".toList else [c])
        firstParsed reading cleaned reading.parsers

/-- The first of some values that is read as a time. -/
def firstCaptured : List (Option String) → Except ProbeError (Option UtcTime)
  | [] => return none
  | value :: values => do
      match ← parseDatetime reading value with
      | some time => return some time
      | none => firstCaptured values

end CaptureTimes

/-- Microseconds from 1 January of year 1 to the epoch. -/
def epochMicros : Int := 719162 * dayMicros

/-- `_mtime`: the modification time, given in microseconds since the epoch. -/
def mtime (st_mtime : Int) : Except ProbeError UtcTime :=
  match UtcTime.ofValue (epochMicros + st_mtime) with
  | some time => return time
  | none => throw (.caught "ValueError")

/-! ### Metadata -/

/-- `Metadata`.  A duration is the bit pattern of a binary64 number. -/
structure Metadata where
  captured_at : UtcTime
  width : Option Int
  height : Option Int
  duration_seconds : Option (BitVec 64)
  orientation : Option Int
  camera_make : Option String
  camera_model : Option String
  video_codec : Option String
  status : String
deriving DecidableEq

/-- What Pillow gives of a photo: the original, digitized and general time tags and the other
tags that are used, numbers having gone through `_integer` and texts through `str`. -/
structure Photo where
  times : List (Option String)
  width : Int
  height : Int
  orientation : Option Int
  make : Option String
  model : Option String

/-- What `ffprobe` tells of the video stream of a file and of its format, numbers having gone
through `_integer` and `_float` and texts through `str`. -/
structure VideoStream where
  creation_times : List (Option String)
  durations : Option (BitVec 64) × Option (BitVec 64)
  rotate : Option Int
  side_rotations : List (Option Int)
  width : Option Int
  height : Option Int
  codec_name : Option String

/-- A file as `probe` reads it: its modification time, what opening it as a photo ends in and
what `ffprobe` ends in, which may have found no video stream. -/
structure Content where
  st_mtime : Int
  photo : Except ProbeError Photo
  video : Except ProbeError (Option VideoStream)

/-- `_text`. -/
def text (value : Option String) : Option String :=
  value.bind fun value => if isBlank value then none else some (Display.strip value)

/-- The truth of `_float(value)`. -/
def isTrueNumber (number : BitVec 64) : Bool := number &&& 0x7fffffffffffffff#64 != 0#64

/-- `_rotation`. -/
def rotation (stream : VideoStream) : Option Int :=
  (stream.rotate.or (stream.side_rotations.findSome? id)).map fun value => |value| % 360

section Probe

variable (reading : TimeReading)

/-- `photo_metadata`. -/
def photoMetadata (content : Content) : Except ProbeError Metadata := do
  let image ← content.photo
  let captured ← firstCaptured reading image.times
  return {
    captured_at := ← match captured with
      | some time => pure time
      | none => mtime content.st_mtime
    width := some image.width
    height := some image.height
    duration_seconds := none
    orientation := image.orientation
    camera_make := text image.make
    camera_model := text image.model
    video_codec := none
    status := "ok" }

/-- `video_metadata`. -/
def videoMetadata (content : Content) : Except ProbeError Metadata := do
  match ← content.video with
  | none => throw (.caught "ValueError")
  | some stream =>
      let captured ← firstCaptured reading stream.creation_times
      let rotation := rotation stream
      let turned := rotation = some 90 ∨ rotation = some 270
      return {
        captured_at := ← match captured with
          | some time => pure time
          | none => mtime content.st_mtime
        width := if turned then stream.height else stream.width
        height := if turned then stream.width else stream.height
        duration_seconds := match stream.durations.1 with
          | some duration => if isTrueNumber duration then some duration else stream.durations.2
          | none => stream.durations.2
        orientation := rotation
        camera_make := none
        camera_model := none
        video_codec := text stream.codec_name
        status := "ok" }

/-- `failed_metadata`. -/
def failedMetadata (content : Content) (type : String) : Except ProbeError Metadata := do
  return {
    captured_at := ← mtime content.st_mtime
    width := none
    height := none
    duration_seconds := none
    orientation := none
    camera_make := none
    camera_model := none
    video_codec := none
    status := "error:" ++ type }

/-- `probe`. -/
def probe (media_type : MediaType) (content : Content) : Except ProbeError Metadata :=
  let metadata := match media_type with
    | .photo => photoMetadata reading content
    | .video => videoMetadata reading content
  match metadata with
  | .error (.caught type) => failedMetadata content type
  | outcome => outcome

end Probe

end Media
end HomeCortex
