/-
# The thumbnail cache of the media service

`ThumbnailService.get_or_create` of `home_media/thumbnails.py`, the refresh of
`home_media/scanner.py` and the statements of `home_media/index.py` that they run, as steps of
one system.  Each lock operation, each file operation and each statement of the index is one
step; requests, refreshes and changes of the source files come in any order.  Taking and
releasing `_locks_guard` around one dictionary operation is that operation.

A media id stands for its source file: `stable_media_id` hashes the type and the path of the
file, and no two files are taken to share an id.  A version of a source remembers when it was
made, which the service does not see.
-/

import HomeCortex.Library.Table

namespace HomeCortex
namespace Media

/-- A version of a source file; `stamp` counts the changes of all sources before it. -/
structure Version where
  stamp : Nat
  file_size : Nat
  mtime_ns : Int
deriving DecidableEq, Repr

/-- `thumbnail_status`. -/
inductive ThumbnailStatus where
  | missing | ready | error
deriving DecidableEq, Repr

/-- A row of `media_items`, as far as thumbnails go. -/
structure Row where
  version : Version
  thumbnail_status : ThumbnailStatus
deriving DecidableEq, Repr

/-- What a request for a thumbnail does next, with the lock it was given and the version it
has read. -/
inductive Phase where
  | lookup
  | test
  | enter
  | wait (lock : Nat)
  | retest (lock : Nat)
  | clean (lock : Nat)
  | read (lock : Nat)
  | write (lock : Nat) (picture : Version)
  | swap (lock : Nat) (picture : Version)
  | ready (lock : Nat)
  | undo (lock : Nat)
  | mark (lock : Nat)
  | discard (lock : Nat)
  | leave (lock : Nat)
deriving DecidableEq, Repr

/-- A request for the thumbnail of an item. -/
structure Call (Id : Type) where
  id : Id
  phase : Phase
deriving DecidableEq, Repr

/-- What the refresh does next.  `existing` are the rows it began with, `todo` the files it has
not looked at and `present` those it has found. -/
inductive Refresh (Id : Type) where
  | idle
  | list (existing : Table Id Row)
  | scan (existing : Table Id Row) (todo present : List Id)
  | store (existing : Table Id Row) (todo present : List Id) (id : Id) (version : Version)
  | drop (existing : Table Id Row) (todo present : List Id) (id : Id)
  | missing (present : List Id)
  | delete (removed : List Id)
  | purge (removed : List Id)

/-- The service, its files and its index. -/
structure State (Id : Type) where
  clock : Nat
  sources : Table Id Version
  rows : Table Id Row
  thumbnails : Id → Option Version
  temporaries : Id → Option Version
  locks : Id → Option Nat
  held : Nat → Bool
  next_lock : Nat
  calls : Table Nat (Call Id)
  refresh : Refresh Id

/-- What happens next: a request arrives, a request takes a step (and fails in it, where it
can), a source file changes or disappears, the refresh takes a step.  The refresh lists files
in the order of their paths; here it is any order. -/
inductive Action (Id : Type) where
  | arrive (n : Nat) (id : Id)
  | call (n : Nat) (raises : Bool)
  | change (id : Id) (content : Option (Nat × Int))
  | refresh (paths : List Id)

namespace State

variable {Id : Type} [DecidableEq Id]

/-- Nothing is indexed, cached or running. -/
def start : State Id where
  clock := 0
  sources := ∅
  rows := ∅
  thumbnails _ := none
  temporaries _ := none
  locks _ := none
  held _ := false
  next_lock := 0
  calls := ∅
  refresh := .idle

variable (s : State Id)

/-- The request goes on to a phase. -/
def goto (n : Nat) (id : Id) (phase : Phase) : State Id :=
  { s with calls := s.calls.insert n ⟨id, phase⟩ }

/-- The request has ended. -/
def finish (n : Nat) : State Id := { s with calls := s.calls.erase n }

/-- The file at `path` is written, or removed. -/
def setThumbnail (id : Id) (picture : Option Version) : State Id :=
  { s with thumbnails := Function.update s.thumbnails id picture }

def setTemporary (id : Id) (picture : Option Version) : State Id :=
  { s with temporaries := Function.update s.temporaries id picture }

/-- `set_thumbnail_status`. -/
def setThumbnailStatus (id : Id) (status : ThumbnailStatus) : State Id :=
  match s.rows.lookup id with
  | some row => { s with rows := s.rows.insert id { row with thumbnail_status := status } }
  | none => s

/-- `_locks.setdefault(media_id, Lock())`: the lock of the item, which is made if there is
none. -/
def setdefaultLock (id : Id) : Nat × State Id :=
  match s.locks id with
  | some lock => (lock, s)
  | none => (s.next_lock, { s with
      locks := Function.update s.locks id (some s.next_lock)
      next_lock := s.next_lock + 1 })

/-- `_locks.pop(media_id, None)`. -/
def popLock (id : Id) : State Id := { s with locks := Function.update s.locks id none }

/-- One step of a request, from looking up its row to the end of `get_or_create`. -/
def callStep (n : Nat) (raises : Bool) (id : Id) : Phase → Option (State Id)
  | .lookup => some (if (s.rows.lookup id).isSome then s.goto n id .test else s.finish n)
  | .test => some (if (s.thumbnails id).isSome then s.finish n else s.goto n id .enter)
  | .enter => some ((s.setdefaultLock id).2.goto n id (.wait (s.setdefaultLock id).1))
  | .wait lock =>
      if s.held lock then none
      else some ({ s with held := Function.update s.held lock true }.goto n id (.retest lock))
  | .retest lock =>
      some (s.goto n id (if (s.thumbnails id).isSome then .leave lock else .clean lock))
  | .clean lock => some ((s.setTemporary id none).goto n id (.read lock))
  | .read lock =>
      match s.sources.lookup id with
      | none => some (s.goto n id (.undo lock))
      | some picture => some (s.goto n id (if raises then .undo lock else .write lock picture))
  | .write lock picture =>
      some ((s.setTemporary id (some picture)).goto n id
        (if raises then .undo lock else .swap lock picture))
  | .swap lock _ =>
      match s.temporaries id with
      | none => some (s.goto n id (.undo lock))
      | some picture =>
          if raises then some (s.goto n id (.undo lock))
          else some (((s.setThumbnail id (some picture)).setTemporary id none).goto n id
            (.ready lock))
  | .ready lock =>
      if raises then some (s.goto n id (.undo lock))
      else some ((s.setThumbnailStatus id .ready).goto n id (.discard lock))
  | .undo lock => some ((s.setTemporary id none).goto n id (.mark lock))
  | .mark lock =>
      some ((if raises then s else s.setThumbnailStatus id .error).goto n id (.discard lock))
  | .discard lock => some ((s.popLock id).goto n id (.leave lock))
  | .leave lock => some ({ s with held := Function.update s.held lock false }.finish n)

/-- `old["file_size"] == stat.st_size and old["mtime_ns"] == stat.st_mtime_ns`. -/
def unchanged (old : Option Row) (version : Version) : Bool :=
  old.any fun row =>
    row.version.file_size == version.file_size && row.version.mtime_ns == version.mtime_ns

/-- One step of `_refresh`. -/
def refreshStep (paths : List Id) : Refresh Id → Option (State Id)
  | .idle => some { s with refresh := .list s.rows }
  | .list existing =>
      if paths.Perm s.sources.keys then some { s with refresh := .scan existing paths [] } else none
  | .scan _ [] present => some { s with refresh := .missing present }
  | .scan existing (id :: todo) present =>
      match s.sources.lookup id with
      | none => some { s with refresh := .scan existing todo present }
      | some version =>
          if unchanged (existing.lookup id) version then
            some { s with refresh := .scan existing todo (id :: present) }
          else some { s with refresh := .store existing todo (id :: present) id version }
  | .store existing todo present id version => some { s with
      rows := s.rows.insert id ⟨version, .missing⟩
      refresh := .drop existing todo present id }
  | .drop existing todo present id =>
      some { s.setThumbnail id none with refresh := .scan existing todo present }
  | .missing present =>
      let removed := s.rows.keys.filter fun id => !present.contains id
      if removed.isEmpty then some { s with refresh := .idle }
      else some { s with refresh := .delete removed }
  | .delete removed => some { s with
      rows := s.rows.deleteWhere fun id _ => removed.contains id
      refresh := .purge removed }
  | .purge [] => some { s with refresh := .idle }
  | .purge (id :: removed) => some { s.setThumbnail id none with refresh := .purge removed }

/-- One step of the system, if it can be taken. -/
def step : Action Id → Option (State Id)
  | .arrive n id => if (s.calls.lookup n).isSome then none else some (s.goto n id .lookup)
  | .call n raises =>
      match s.calls.lookup n with
      | none => none
      | some call => s.callStep n raises call.id call.phase
  | .change id none => some { s with sources := s.sources.erase id, clock := s.clock + 1 }
  | .change id (some (file_size, mtime_ns)) => some { s with
      sources := s.sources.insert id ⟨s.clock, file_size, mtime_ns⟩
      clock := s.clock + 1 }
  | .refresh paths => s.refreshStep paths s.refresh

/-- The state after some steps. -/
def run (s : State Id) : List (Action Id) → Option (State Id)
  | [] => some s
  | action :: actions => (s.step action).bind fun next => next.run actions

end State

/-! ### What a phase has -/

namespace Phase

/-- The lock that a request waits for, or holds until it is discarded. -/
def contended? : Phase → Option Nat
  | .wait lock | .retest lock | .clean lock | .read lock | .write lock _ | .swap lock _
  | .ready lock | .undo lock | .mark lock | .discard lock => some lock
  | .lookup | .test | .enter | .leave _ => none

/-- The lock that a request holds. -/
def holding? : Phase → Option Nat
  | .retest lock | .clean lock | .read lock | .write lock _ | .swap lock _ | .ready lock
  | .undo lock | .mark lock | .discard lock | .leave lock => some lock
  | .lookup | .test | .enter | .wait _ => none

/-- A generation is running, from clearing the temporary file to discarding the lock. -/
def generates : Phase → Bool
  | .clean _ | .read _ | .write .. | .swap .. | .ready _ | .undo _ | .mark _ | .discard _ => true
  | .lookup | .test | .enter | .wait _ | .retest _ | .leave _ => false

/-- The version that was read and has not become the thumbnail yet. -/
def picture? : Phase → Option Version
  | .write _ picture | .swap _ picture => some picture
  | _ => none

theorem locks_of_generates {phase : Phase} (h : phase.generates = true) :
    ∃ lock, phase.contended? = some lock ∧ phase.holding? = some lock := by
  cases phase with
  | lookup | test | enter | wait lock | retest lock | leave lock => cases h
  | clean lock | read lock | write lock picture | swap lock picture | ready lock | undo lock
  | mark lock | discard lock => exact ⟨lock, rfl, rfl⟩

end Phase

namespace Refresh

variable {Id : Type} [DecidableEq Id]

/-- The refresh has replaced or deleted the row, and has yet to remove the thumbnail. -/
def awaits (id : Id) : Refresh Id → Bool
  | .drop _ _ _ other => other == id
  | .purge removed => removed.contains id
  | _ => false

/-- The item whose thumbnail is removed next. -/
def unlinks? : Refresh Id → Option Id
  | .drop _ _ _ id => some id
  | .purge (id :: _) => some id
  | _ => none

end Refresh

namespace State

variable {Id : Type} [DecidableEq Id] (s : State Id)

/-- The version that the index records for an item. -/
def indexed (id : Id) : Option Version := (s.rows.lookup id).map Row.version

/-- A picture is at least as new as what the index records for its item. -/
def current (id : Id) (picture : Version) : Bool :=
  (s.indexed id).any fun version => decide (version.stamp ≤ picture.stamp)

/-- **No two generations of one item overlap.** -/
def NoOverlap : Prop :=
  ∀ m n call other, s.calls.lookup m = some call → s.calls.lookup n = some other →
    call.id = other.id → call.phase.generates = true → other.phase.generates = true → m = n

/-- **The cache is coherent**: a thumbnail belongs to an indexed item and is at least as new
as what the index records, unless the refresh is about to remove it. -/
def Coherent : Prop :=
  ∀ id picture, s.thumbnails id = some picture →
    s.refresh.awaits id = true ∨ s.current id picture = true

end State

end Media
end HomeCortex
