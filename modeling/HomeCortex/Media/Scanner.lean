/-
# Incremental discovery of media files

`MediaScanner._refresh` of `home_media/scanner.py`.  The files under the two roots are visited
in turn.  A file of a supported type inside its root is looked up in the index by its path; it
is probed and written when it is new or its size or modification time has changed, and each
such write is committed at once.  At the end the records of the files that were not found are
removed.

The tree does not change during a refresh.  `Path.is_file`, `Path.resolve` and `Path.stat` are
what an entry of the tree says, and media ids are taken to be injective.
-/

import HomeCortex.Media.Index

namespace HomeCortex
namespace Media

/-! ### The tree -/

/-- A file that a path resolves to: whether it is inside the root, its `stat` and its content. -/
structure File where
  inside : Bool
  st_size : Int
  st_mtime_ns : Int
  content : Content

/-- What `rglob` finds: a path below the root, whether it is a regular file, and the file, unless
`resolve` or `stat` fails. -/
structure Entry where
  relative_path : String
  is_file : Bool
  resolved : Option File

/-- The entries below a root, each with its own path. -/
structure Root where
  entries : List Entry
  nodup : (entries.map Entry.relative_path).Nodup

/-- The media roots; one that is no directory is `none`. -/
structure Tree where
  photo : Option Root
  video : Option Root

/-- The entries that are visited under a root. -/
def Tree.entries (tree : Tree) : MediaType → List Entry
  | .photo => tree.photo.elim [] Root.entries
  | .video => tree.video.elim [] Root.entries

/-- `path.name`. -/
def Entry.name (entry : Entry) : List Char :=
  (entry.relative_path.toList.reverse.takeWhile (· ≠ '/')).reverse

/-- `path.suffix`: from the last dot on, unless it is the first or the last character. -/
def Entry.suffix (entry : Entry) : List Char :=
  let after := entry.name.reverse.takeWhile (· ≠ '.')
  if after.length + 1 < entry.name.length ∧ after ≠ [] then '.' :: after.reverse else []

/-- `PHOTO_EXTENSIONS` and `VIDEO_EXTENSIONS`. -/
def extensions : MediaType → List String
  | .photo => [".jpg", ".jpeg", ".png", ".webp", ".heic", ".heif"]
  | .video => [".mp4", ".mov", ".m4v", ".webm"]

/-! ### The scan -/

/-- What the service rests on: `stable_media_id`, `str.casefold`, the database and how times
are read. -/
structure Service where
  stable_media_id : MediaType → String → String
  injective : ∀ {type type' path path'}, stable_media_id type path = stable_media_id type' path' →
    type = type' ∧ path = path'
  folding : Display.CaseFolding
  sqlite : Sqlite
  reading : TimeReading

/-- What ends a refresh: an exception of `probe` or of the index. -/
inductive RefreshError where
  | probe (type : String)
  | index (error : IndexError)
deriving DecidableEq, Repr

/-- The local variables of `_refresh`; a counter is the list of what was counted. -/
structure Scan where
  index : Index
  present : List Identity
  extension_counts : List String
  unsupported_counts : List String
  discovered : Nat
  added : Nat
  updated : Nat
  unchanged : Nat
  errors : Nat

/-- Before the first file. -/
def Scan.start (index : Index) : Scan := ⟨index, [], [], [], 0, 0, 0, 0, 0⟩

/-- `RefreshResult`, without its `duration_seconds`. -/
structure RefreshResult where
  discovered : Nat
  added : Nat
  updated : Nat
  unchanged : Nat
  removed : Nat
  unsupported : Nat
  errors : Nat
  extension_counts : List (String × Nat)
  unsupported_extension_counts : List (String × Nat)
deriving DecidableEq, Repr

section Refresh

variable (service : Service)

/-- `path.suffix.casefold() or "<none>"`. -/
def extension (entry : Entry) : String :=
  match service.folding.casefold entry.suffix with
  | [] => "<none>"
  | folded => String.ofList folded

/-- `stable_media_id` of a file of a root. -/
def mediaId (identity : Identity) : String := service.stable_media_id identity.1 identity.2

/-- `probe`, whose uncaught exceptions leave the refresh. -/
def probed (source : MediaType) (file : File) : Except RefreshError Metadata :=
  match probe service.reading source file.content with
  | .ok metadata => .ok metadata
  | .error (.caught type) => .error (.probe type)
  | .error (.uncaught type) => .error (.probe type)

/-- The row of a file and what was made of it. -/
def rowOf (source : MediaType) (entry : Entry) (file : File) (metadata : Metadata) : IndexRow :=
  .of source source entry.relative_path (String.ofList entry.name) file.st_size file.st_mtime_ns
    metadata

/-- A media file that is found: one iteration from `discovered += 1` on. -/
def visitFile (existing : Table Identity (String × IndexRow)) (source : MediaType) (entry : Entry)
    (file : File) (scan : Scan) : Except RefreshError Scan := do
  let identity := (source, entry.relative_path)
  let scan := { scan with
    discovered := scan.discovered + 1, present := identity :: scan.present }
  let old := (existing.lookup identity).map Prod.snd
  if old.any fun old => old.file_size = file.st_size ∧ old.mtime_ns = file.st_mtime_ns then
    return { scan with unchanged := scan.unchanged + 1 }
  else
    let metadata ← probed service source file
    let row := rowOf source entry file metadata
    match scan.index.upsert service.sqlite (mediaId service identity) row with
    | .error error => throw (.index error)
    | .ok index =>
        return { scan with
          index := index
          errors := scan.errors + if metadata.status = "ok" then 0 else 1
          added := scan.added + if old.isNone then 1 else 0
          updated := scan.updated + if old.isNone then 0 else 1 }

/-- One iteration of the loop over the files under a root. -/
def visit (existing : Table Identity (String × IndexRow)) (source : MediaType) (entry : Entry)
    (scan : Scan) : Except RefreshError Scan :=
  if entry.is_file then
    let extension := extension service entry
    let scan := { scan with extension_counts := extension :: scan.extension_counts }
    if extension ∈ extensions source then
      match entry.resolved with
      | none => .ok { scan with errors := scan.errors + 1 }
      | some file =>
          if file.inside then visitFile service existing source entry file scan
          else .ok { scan with
            unsupported_counts := "<unsafe-symlink>" :: scan.unsupported_counts }
    else .ok { scan with unsupported_counts := extension :: scan.unsupported_counts }
  else .ok scan

/-- The loops over the roots and their files.  An exception leaves the writes before it. -/
def visitAll (existing : Table Identity (String × IndexRow)) :
    List (MediaType × Entry) → Scan → Scan × Option RefreshError
  | [], scan => (scan, none)
  | (source, entry) :: entries, scan =>
      match visit service existing source entry scan with
      | .ok scan => visitAll existing entries scan
      | .error error => (scan, some error)

/-- The files under the photo root, then those under the video root. -/
def Tree.listing (tree : Tree) : List (MediaType × Entry) :=
  (tree.entries .photo).map (Prod.mk .photo) ++ (tree.entries .video).map (Prod.mk .video)

/-- `dict(sorted(counts.items()))`. -/
def sortedCounts (counted : List String) : List (String × Nat) :=
  (counted.dedup.mergeSort (· ≤ ·)).map fun key => (key, counted.count key)

/-- `_refresh`: the index that it leaves, and its result. -/
def refresh (tree : Tree) (index : Index) : Index × Except RefreshError RefreshResult :=
  match visitAll service index.recordsByIdentity tree.listing (Scan.start index) with
  | (scan, some error) => (scan.index, .error error)
  | (scan, none) =>
      match scan.index.removeMissing service.sqlite scan.present with
      | .error error => (scan.index, .error (.index error))
      | .ok (index, removed_ids) => (index, .ok {
          discovered := scan.discovered
          added := scan.added
          updated := scan.updated
          unchanged := scan.unchanged
          removed := removed_ids.length
          unsupported := scan.unsupported_counts.length
          errors := scan.errors
          extension_counts := sortedCounts scan.extension_counts
          unsupported_extension_counts := sortedCounts scan.unsupported_counts })

end Refresh

end Media
end HomeCortex
