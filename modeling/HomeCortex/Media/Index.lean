/-
# The media index

`MediaIndex` of `home_media/index.py`: the table `media_items` and the statements on it.
A statement binds its parameters first.  More parameters than the database accepts are an
error, and so is an integer of more than 64 bits; then nothing is written.  The database
accepts at least the sixteen that one record needs.

Times stand in the table as texts and are ordered as texts.
-/

import HomeCortex.Library.Table
import HomeCortex.Media.Metadata
import HomeCortex.Media.Thumbnails

namespace HomeCortex
namespace Media

/-- What a statement of the index may raise: `sqlite3.OperationalError` for too many variables,
`OverflowError` for an integer and `sqlite3.IntegrityError` for `UNIQUE(source, relative_path)`. -/
inductive IndexError where
  | tooManyVariables
  | overflow
  | integrity
deriving DecidableEq, Repr

/-- A parameter of a statement. -/
inductive Parameter where
  | null
  | integer (value : Int)
  | real (bits : BitVec 64)
  | text (value : String)
deriving DecidableEq

/-- An integer has 64 bits. -/
def Parameter.fits : Parameter → Bool
  | .integer value => -2 ^ 63 ≤ value && value < 2 ^ 63
  | _ => true

/-- `None` is `NULL`. -/
def Parameter.ofOption {α : Type} (make : α → Parameter) : Option α → Parameter
  | some value => make value
  | none => .null

/-- The database, by the number of parameters that it accepts in a statement. -/
structure Sqlite where
  variable_limit : Nat
  variable_limit_range : 16 ≤ variable_limit

/-- Bind the parameters of a statement. -/
def Sqlite.bind (sqlite : Sqlite) (parameters : List Parameter) : Except IndexError Unit :=
  if sqlite.variable_limit < parameters.length then .error .tooManyVariables
  else if parameters.all Parameter.fits then .ok ()
  else .error .overflow

/-- `media_type` as it is written. -/
def MediaType.name : MediaType → String
  | .photo => "photo"
  | .video => "video"

/-- A row of `media_items`, without its `id`. -/
structure IndexRow where
  media_type : MediaType
  source : MediaType
  relative_path : String
  filename : String
  file_size : Int
  mtime_ns : Int
  captured_at : String
  width : Option Int
  height : Option Int
  duration_seconds : Option (BitVec 64)
  orientation : Option Int
  camera_make : Option String
  camera_model : Option String
  video_codec : Option String
  thumbnail_status : ThumbnailStatus
  metadata_status : String
deriving DecidableEq

/-- The path of a file under one of the roots. -/
abbrev Identity := MediaType × String

def IndexRow.identity (row : IndexRow) : Identity := (row.source, row.relative_path)

/-- The rows by their `id`. -/
abbrev Index := Table String IndexRow

/-- A bit pattern that is not a number; the database keeps `NULL` for it. -/
def isNaN (number : BitVec 64) : Bool :=
  number &&& 0x7ff0000000000000#64 == 0x7ff0000000000000#64 &&
    number &&& 0x000fffffffffffff#64 != 0#64

/-- The row that `upsert` writes. -/
def IndexRow.of (media_type source : MediaType) (relative_path filename : String)
    (file_size mtime_ns : Int) (metadata : Metadata) : IndexRow where
  media_type := media_type
  source := source
  relative_path := relative_path
  filename := filename
  file_size := file_size
  mtime_ns := mtime_ns
  captured_at := metadata.captured_at.isoformat
  width := metadata.width
  height := metadata.height
  duration_seconds := metadata.duration_seconds.filter fun number => !isNaN number
  orientation := metadata.orientation
  camera_make := metadata.camera_make
  camera_model := metadata.camera_model
  video_codec := metadata.video_codec
  thumbnail_status := .missing
  metadata_status := metadata.status

/-- The parameters of `upsert`. -/
def IndexRow.parameters (media_id : String) (row : IndexRow) : List Parameter :=
  [.text media_id, .text row.media_type.name, .text row.source.name, .text row.relative_path,
    .text row.filename, .integer row.file_size, .integer row.mtime_ns, .text row.captured_at,
    .ofOption .integer row.width, .ofOption .integer row.height,
    .ofOption .real row.duration_seconds, .ofOption .integer row.orientation,
    .ofOption .text row.camera_make, .ofOption .text row.camera_model,
    .ofOption .text row.video_codec, .text row.metadata_status]

namespace Index

variable (index : Index)

/-- `records_by_identity`, each record with its `id`; of two records the later one counts. -/
def recordsByIdentity : Table Identity (String × IndexRow) :=
  (∅ : Table Identity (String × IndexRow)).insertAll
    (index.entries.map fun e => (e.2.identity, e.1, e.2))

/-- `upsert`. -/
def upsert (sqlite : Sqlite) (media_id : String) (row : IndexRow) : Except IndexError Index := do
  sqlite.bind (row.parameters media_id)
  if index.entries.any fun e => e.1 != media_id && e.2.identity == row.identity then
    throw .integrity
  return index.insert media_id row

/-- The ids of the records whose path is not `present`. -/
def removedIds (present : List Identity) : List String :=
  (index.recordsByIdentity.entries.filter fun e => e.1 ∉ present).map fun e => e.2.1

/-- `remove_missing`: the index and the ids that are removed. -/
def removeMissing (sqlite : Sqlite) (present : List Identity) :
    Except IndexError (Index × List String) := do
  let removed_ids := index.removedIds present
  if removed_ids = [] then return (index, [])
  sqlite.bind (removed_ids.map .text)
  return (index.deleteWhere fun id _ => id ∈ removed_ids, removed_ids)

/-- `ORDER BY captured_at DESC, id DESC`. -/
def timelineOrder (a b : String × IndexRow) : Bool :=
  toLex (b.2.captured_at, b.1) ≤ toLex (a.2.captured_at, a.1)

/-- The rows of a type, all rows where it is `none`, in the order of the timeline. -/
def timeline (media_type : Option MediaType) : List (String × IndexRow) :=
  (index.select fun _ row => media_type.all (row.media_type = ·)).mergeSort timelineOrder

/-- `list_items`: the rows of a page and the number of all rows. -/
def listItems (media_type : Option MediaType) (limit offset : Nat) :
    List (String × IndexRow) × Nat :=
  ((index.timeline media_type).drop offset |>.take limit, (index.timeline media_type).length)

/-- `MediaPage`, an item being its row. -/
structure MediaPage where
  items : List (String × IndexRow)
  total : Nat
  limit : Nat
  offset : Nat
  next_offset : Option Nat

/-- `GET /items`, where `limit` may be left out. -/
def mediaPage (page_size : Nat) (media_type : Option MediaType) (limit : Option Nat)
    (offset : Nat) : MediaPage :=
  let page_limit := limit.getD page_size
  let (rows, total) := index.listItems media_type page_limit offset
  { items := rows
    total := total
    limit := page_limit
    offset := offset
    next_offset := if offset + rows.length < total then some (offset + rows.length) else none }

end Index

end Media
end HomeCortex
