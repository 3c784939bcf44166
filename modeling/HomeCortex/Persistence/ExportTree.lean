/-
# Replacing the tree of an export

`export_directory` of `persistence/export.py` stages `nodes/` and `edges/` beside the
target's own and moves them into place, each after the old one was moved to a backup.
When a move fails, what was backed up is moved back.  A directory that was not there
before has no backup, and nothing takes it away again: so the target is left as it was
exactly when it had a `nodes/`, or when the very first move failed
(`exportDirectory_leaves_iff`).

What was read from the database is a parameter, and so is the directory that its JSON
files make up.  A move either completes or has no effect.
-/

import HomeCortex.Common.Json
import HomeCortex.Library.Raising

namespace HomeCortex

/-- The two subdirectories of an export. -/
inductive ExportName where
  | nodes
  | edges
deriving DecidableEq, Repr

/-- The name of the subdirectory. -/
def ExportName.text : ExportName → String
  | .nodes => "nodes"
  | .edges => "edges"

/-- A subdirectory of the target, its backup, or the one staged to replace it; backups and
staging have names of their own. -/
inductive ExportPath where
  | destination (name : ExportName)
  | backup (name : ExportName)
  | staged (name : ExportName)
deriving DecidableEq, Repr

/-- What stands under a path. -/
inductive ExportEntry (Tree : Type) where
  | file
  | directory (tree : Tree)

/-- The target: its entries, the moves made so far, and the backups of
`_replace_export_tree`. -/
structure ExportFiles (Tree : Type) where
  entry : ExportPath → Option (ExportEntry Tree)
  moves : Nat
  backups : List ExportName

/-- What an export raises. -/
inductive ExportError where
  | value (message : String)
  | move
  | payload (error : PyError)
deriving DecidableEq

/-- `_CanonicalPayload`. -/
structure CanonicalPayload where
  nodes : List (String × List Fields)
  edges : List (String × List Fields)
  omitted_retired_tables : List String
  omitted_retired_records : Nat

/-- `ExportResult`. -/
structure ExportResult where
  node_files : Nat := 0
  edge_files : Nat := 0
  nodes_exported : Nat := 0
  edges_exported : Nat := 0
  omitted_retired_tables : List String := []
  omitted_retired_records : Nat := 0
  target_dir : String := ""
deriving DecidableEq

variable {Tree : Type}

/-- An entry is written. -/
def ExportFiles.put (files : ExportFiles Tree) (path : ExportPath)
    (entry : Option (ExportEntry Tree)) : ExportFiles Tree :=
  { files with entry := Function.update files.entry path entry }

/-- A computation on the target that may raise. -/
abbrev Exporting (Tree : Type) := Raising (ExportFiles Tree) ExportError

/-- `_move_directory`; `fails` says which moves have no effect. -/
def moveDirectory (fails : Nat → Bool) (source destination : ExportPath) : Exporting Tree Unit := do
  let files ← get
  modify fun files => { files with moves := files.moves + 1 }
  match fails files.moves, files.entry source with
  | false, some entry => modify fun files => (files.put destination (some entry)).put source none
  | _, _ => throw .move

/-- A directory of `_replace_export_tree` is backed up, if there is one, and replaced. -/
def replaceDirectory (fails : Nat → Bool) (name : ExportName) : Exporting Tree Unit := do
  if ((← get).entry (.destination name)).isSome then
    moveDirectory fails (.destination name) (.backup name)
    modify fun files => { files with backups := files.backups ++ [name] }
  moveDirectory fails (.staged name) (.destination name)

/-- A backup is moved back. -/
def restoreBackup (fails : Nat → Bool) (name : ExportName) : Exporting Tree Unit := do
  modify fun files => files.put (.destination name) none
  moveDirectory fails (.backup name) (.destination name)

/-- `_replace_export_tree`. -/
def replaceExportTree (fails : Nat → Bool) : Exporting Tree Unit := do
  Raising.undoing
    (do replaceDirectory fails .nodes
        replaceDirectory fails .edges)
    (do (← get).backups.forM (restoreBackup fails))
  modify fun files => files.backups.foldl (fun files name => files.put (.backup name) none) files

/-- A subdirectory of the target is a directory, if it is there. -/
def requireDirectory (target : String) (name : ExportName) : Exporting Tree Unit := do
  match (← get).entry (.destination name) with
  | some .file => throw (.value (target ++ "/" ++ name.text ++ " exists and is not a directory"))
  | _ => pure ()

/-- The records of the tables of a payload. -/
def recordCount (tables : List (String × List Fields)) : Nat :=
  (tables.map fun table => table.2.length).sum

/-- `export_directory`, to the target of this path. -/
def exportDirectory (fails : Nat → Bool) (written : List (String × List Fields) → Tree)
    (target : String) (target_is_file : Bool) (read : Except PyError CanonicalPayload) :
    Exporting Tree ExportResult := do
  if target_is_file then throw (.value (target ++ " exists and is not a directory"))
  requireDirectory target .nodes
  requireDirectory target .edges
  let payload ← liftM (read.mapError ExportError.payload)
  Raising.ensuring
    (do modify fun files => (files.put (.staged .nodes) (some (.directory (written payload.nodes)))).put
          (.staged .edges) (some (.directory (written payload.edges)))
        replaceExportTree fails)
    fun files => (files.put (.staged .nodes) none).put (.staged .edges) none
  return {
    node_files := payload.nodes.length
    edge_files := payload.edges.length
    nodes_exported := recordCount payload.nodes
    edges_exported := recordCount payload.edges
    omitted_retired_tables := payload.omitted_retired_tables
    omitted_retired_records := payload.omitted_retired_records
    target_dir := target }

/-! ### One move fails -/

/-- A target with the directories it has, before an export. -/
def exportTarget (nodes edges : Option Tree) : ExportFiles Tree where
  entry
    | .destination .nodes => nodes.map .directory
    | .destination .edges => edges.map .directory
    | .backup _ | .staged _ => none
  moves := 0
  backups := []

/-- The moves of an export: each directory is replaced, after its backup if it was there. -/
def moveCount (nodes edges : Option Tree) : Nat :=
  2 + nodes.toList.length + edges.toList.length

/-- The export raised, and `nodes/` and `edges/` are as they were. -/
def LeavesTarget (before : ExportFiles Tree)
    (run : Except ExportError ExportResult × ExportFiles Tree) : Prop :=
  (∃ error, run.1 = .error error) ∧
    ∀ name, run.2.entry (.destination name) = before.entry (.destination name)

/-- The run of an export in which the move `failing` has no effect. -/
def exportFailingAt (failing : Nat) (written : List (String × List Fields) → Tree) (target : String)
    (payload : CanonicalPayload) (nodes edges : Option Tree) :
    Except ExportError ExportResult × ExportFiles Tree :=
  (exportDirectory (fun move => move == failing) written target false (.ok payload)).outcome
    (exportTarget nodes edges)

variable {written : List (String × List Fields) → Tree} {target : String}
  {payload : CanonicalPayload} {nodes edges : Option Tree}

/-- With a `nodes/` to begin with, every directory that was moved in had a backup. -/
theorem leaves_of_nodes (tree : Tree) {failing : Nat} (h : failing < moveCount (some tree) edges) :
    LeavesTarget (exportTarget (some tree) edges)
      (exportFailingAt failing written target payload (some tree) edges) := by
  cases edges with
  | none =>
      have hcases : failing = 0 ∨ failing = 1 ∨ failing = 2 := by
        simp only [moveCount, Option.toList_some, Option.toList_none, List.length_cons,
          List.length_nil] at h
        omega
      rcases hcases with rfl | rfl | rfl
      all_goals exact ⟨⟨_, rfl⟩, fun name => by cases name <;> rfl⟩
  | some other =>
      have hcases : failing = 0 ∨ failing = 1 ∨ failing = 2 ∨ failing = 3 := by
        simp only [moveCount, Option.toList_some, List.length_cons, List.length_nil] at h
        omega
      rcases hcases with rfl | rfl | rfl | rfl
      all_goals exact ⟨⟨_, rfl⟩, fun name => by cases name <;> rfl⟩

/-- Without one, the first move takes the staged `nodes/` into place, and it stays there. -/
theorem nodes_left_behind {failing : Nat} (hfirst : failing ≠ 0)
    (h : failing < moveCount (none : Option Tree) edges) :
    (exportFailingAt failing written target payload none edges).2.entry (.destination .nodes)
      = some (.directory (written payload.nodes)) := by
  cases edges with
  | none =>
      have hlast : failing = 1 := by
        simp only [moveCount, Option.toList_none, List.length_nil] at h
        omega
      subst hlast
      rfl
  | some tree =>
      have hcases : failing = 1 ∨ failing = 2 := by
        simp only [moveCount, Option.toList_some, Option.toList_none, List.length_cons,
          List.length_nil] at h
        omega
      rcases hcases with rfl | rfl <;> rfl

theorem leaves_of_first :
    LeavesTarget (exportTarget nodes edges)
      (exportFailingAt 0 written target payload nodes edges) := by
  cases nodes <;> cases edges
  all_goals exact ⟨⟨_, rfl⟩, fun name => by cases name <;> rfl⟩

/-- **When a failed export leaves the target as it was**: for every target and every move
that fails, exactly when there was a `nodes/`, or no move was made before. -/
theorem exportDirectory_leaves_iff (written : List (String × List Fields) → Tree) (target : String)
    (payload : CanonicalPayload) (nodes edges : Option Tree) (failing : Nat)
    (h : failing < moveCount nodes edges) :
    LeavesTarget (exportTarget nodes edges)
        (exportFailingAt failing written target payload nodes edges) ↔
      nodes.isSome = true ∨ failing = 0 := by
  cases nodes with
  | some tree => exact iff_of_true (leaves_of_nodes tree h) (.inl rfl)
  | none =>
      by_cases hfirst : failing = 0
      · subst hfirst
        exact iff_of_true leaves_of_first (.inr rfl)
      · refine iff_of_false (fun hleaves => ?_) (by simp [hfirst])
        have hnodes := hleaves.2 .nodes
        rw [nodes_left_behind hfirst h] at hnodes
        cases hnodes

/-- An export to a target with both directories, when the last move fails. -/
theorem leaves_full_target :
    LeavesTarget (exportTarget (some "old nodes") (some "old edges"))
        (exportFailingAt 3 (fun _ => "new") "/export" ⟨[], [], [], 0⟩ (some "old nodes")
          (some "old edges")) ↔
      (some "old nodes").isSome = true ∨ 3 = 0 :=
  exportDirectory_leaves_iff _ _ _ _ _ 3 (by decide)

/-- An export to an empty target, when the staged `edges/` cannot be moved: it raises, and a
`nodes/` that was not there stays. -/
theorem empty_target_not_left :
    ¬ LeavesTarget (exportTarget none none)
      (exportFailingAt 1 (fun _ => "new") "/export" ⟨[], [], [], 0⟩ none none) := by
  intro h
  have hnodes := h.2 .nodes
  cases hnodes

end HomeCortex
