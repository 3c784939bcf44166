/-
# What a scan of the media roots does

The media files of a tree are the regular files of a supported type inside their root
(`Tree.mediaFiles`).  A scan of them writes those that are new or have changed (`fresh`), each
with what it is probed to be, and counts the others (`visitAll_ok`); it stops at the first one
that cannot be probed or written (`visitAll_error`).  Every index that scans leave is `Kept`:
a record stands under the id of its own path and is what a scan wrote for some file.
-/

import HomeCortex.Media.Scanner

namespace HomeCortex
namespace Media

/-! ### The media files of a tree -/

/-- A media file: the root and the entry that it was found as. -/
structure Found where
  source : MediaType
  entry : Entry
  file : File

def Found.identity (found : Found) : Identity := (found.source, found.entry.relative_path)

section Discovery

variable (service : Service)

/-- The media file of an entry, if it is one. -/
def found? (e : MediaType × Entry) : Option Found :=
  if e.2.is_file ∧ extension service e.2 ∈ extensions e.1 then
    (e.2.resolved.filter File.inside).map (Found.mk e.1 e.2)
  else none

/-- The regular files of a supported type inside their root. -/
def Tree.mediaFiles (tree : Tree) : List Found := tree.listing.filterMap (found? service)

theorem identity_of_found? {e : MediaType × Entry} {f : Found} (h : found? service e = some f) :
    f.identity = (e.1, e.2.relative_path) := by
  rw [found?, Option.ite_none_right_eq_some] at h
  obtain ⟨file, -, rfl⟩ := Option.map_eq_some_iff.1 h.2
  rfl

theorem nodup_listing (tree : Tree) :
    (tree.listing.map fun e => (e.1, e.2.relative_path)).Nodup := by
  have hroot : ∀ source, ((tree.entries source).map Entry.relative_path).Nodup := by
    intro source
    cases source with
    | photo => cases h : tree.photo <;> simp [Tree.entries, h, Root.nodup]
    | video => cases h : tree.video <;> simp [Tree.entries, h, Root.nodup]
  have hpaths : ∀ source, (((tree.entries source).map (Prod.mk source)).map
      fun e => (e.1, e.2.relative_path)).Nodup := by
    intro source
    have h := (hroot source).map (Prod.mk_right_injective source)
    rwa [List.map_map] at h ⊢
  rw [Tree.listing, List.map_append]
  refine List.Nodup.append (hpaths .photo) (hpaths .video) ?_
  simp [List.disjoint_left]

/-- No two media files share their path. -/
theorem nodup_mediaFiles (tree : Tree) :
    ((tree.mediaFiles service).map Found.identity).Nodup := by
  have hsub : ∀ entries : List (MediaType × Entry),
      ((entries.filterMap (found? service)).map Found.identity).Sublist
        (entries.map fun e => (e.1, e.2.relative_path)) := by
    intro entries
    induction entries with
    | nil => exact List.Sublist.refl _
    | cons e entries ih =>
        cases h : found? service e with
        | none =>
            rw [List.filterMap_cons_none h]
            exact ih.cons _
        | some f =>
            rw [List.filterMap_cons_some h, List.map_cons, List.map_cons,
              identity_of_found? service h]
            exact ih.cons_cons _
  exact (nodup_listing tree).sublist (hsub _)

/-! ### What is written -/

/-- The row of a media file, if it can be probed and written. -/
def Found.row? (f : Found) : Option IndexRow :=
  (probed service f.source f.file).toOption.bind fun metadata =>
    let row := rowOf f.source f.entry f.file metadata
    if (row.parameters (mediaId service f.identity)).all Parameter.fits then some row else none

/-- The index has no record of the file. -/
def isNew (index : Index) (f : Found) : Bool :=
  (index.lookup (mediaId service f.identity)).isNone

/-- The index has no record of the file with its size and modification time. -/
def fresh (index : Index) (f : Found) : Bool :=
  !(index.lookup (mediaId service f.identity)).any fun old =>
    old.file_size = f.file.st_size ∧ old.mtime_ns = f.file.st_mtime_ns

/-- The records that a scan of some media files writes. -/
def written (index : Index) (files : List Found) : List (String × IndexRow) :=
  files.filterMap fun f =>
    if fresh service index f then (f.row? service).map (Prod.mk (mediaId service f.identity))
    else none

theorem mediaId_injective {identity identity' : Identity}
    (h : mediaId service identity = mediaId service identity') : identity = identity' := by
  obtain ⟨hsource, hpath⟩ := service.injective h
  exact Prod.ext hsource hpath

/-! ### Indexes that scans leave -/

/-- A record stands under the id of its path, and was written for a file. -/
structure Kept (index : Index) : Prop where
  id_eq : ∀ {id row}, index.lookup id = some row → id = mediaId service row.identity
  row_eq : ∀ {id row}, index.lookup id = some row →
    ∃ source entry file metadata, row = rowOf source entry file metadata

theorem kept_empty : Kept service ∅ :=
  ⟨fun h => (by simp at h), fun h => (by simp at h)⟩

variable {service}

theorem row?_eq_some {f : Found} {row : IndexRow} (h : f.row? service = some row) :
    ∃ metadata, probed service f.source f.file = .ok metadata ∧
      row = rowOf f.source f.entry f.file metadata ∧
      (row.parameters (mediaId service f.identity)).all Parameter.fits = true := by
  obtain ⟨metadata, hprobed, hrow⟩ := Option.bind_eq_some_iff.1 h
  rw [Option.ite_none_right_eq_some] at hrow
  obtain ⟨hfits, hrow⟩ := hrow
  cases hrow
  refine ⟨metadata, ?_, rfl, hfits⟩
  cases hresult : probed service f.source f.file with
  | error error => simp [hresult, Except.toOption] at hprobed
  | ok metadata' => simpa [hresult, Except.toOption] using hprobed

theorem identity_rowOf (f : Found) (metadata : Metadata) :
    (rowOf f.source f.entry f.file metadata).identity = f.identity := rfl

theorem length_parameters (media_id : String) (row : IndexRow) :
    (row.parameters media_id).length = 16 := rfl

theorem mem_written {index : Index} {files : List Found} {e : String × IndexRow} :
    e ∈ written service index files ↔ ∃ f ∈ files, fresh service index f = true ∧
      f.row? service = some e.2 ∧ e.1 = mediaId service f.identity := by
  simp only [written, List.mem_filterMap, Option.ite_none_right_eq_some, Option.map_eq_some_iff]
  constructor
  · rintro ⟨f, hf, hfresh, row, hrow, rfl⟩
    exact ⟨f, hf, hfresh, hrow, rfl⟩
  · rintro ⟨f, hf, hfresh, hrow, hid⟩
    exact ⟨f, hf, hfresh, e.2, hrow, Prod.ext hid.symm rfl⟩

namespace Kept

variable {index : Index}

theorem insertAll {existing : Index} {files : List Found} (h : Kept service index) :
    Kept service (index.insertAll (written service existing files)) := by
  constructor
  · intro id row hlookup
    rcases AList.lookup_insertAll_cases hlookup with hmem | hold
    · obtain ⟨f, -, -, hrow, hid⟩ := mem_written.1 hmem
      obtain ⟨metadata, -, hrow, -⟩ := row?_eq_some hrow
      dsimp only at hrow hid
      rw [hid, hrow, identity_rowOf]
    · exact h.id_eq hold
  · intro id row hlookup
    rcases AList.lookup_insertAll_cases hlookup with hmem | hold
    · obtain ⟨f, -, -, hrow, -⟩ := mem_written.1 hmem
      obtain ⟨metadata, -, hrow, -⟩ := row?_eq_some hrow
      exact ⟨_, _, _, metadata, hrow⟩
    · exact h.row_eq hold

theorem deleteWhere (h : Kept service index) (p : String → IndexRow → Bool) :
    Kept service (index.deleteWhere p) :=
  ⟨fun hlookup => h.id_eq (AList.lookup_deleteWhere_eq_some.1 hlookup).1,
    fun hlookup => h.row_eq (AList.lookup_deleteWhere_eq_some.1 hlookup).1⟩

/-- No two records share their path. -/
theorem nodup_identities (h : Kept service index) :
    (index.entries.map fun e => e.2.identity).Nodup := by
  refine List.Nodup.of_map (mediaId service) ?_
  have hids : (index.entries.map fun e => e.2.identity).map (mediaId service)
      = index.entries.map Sigma.fst := by
    rw [List.map_map]
    refine List.map_congr_left fun e he => ?_
    exact (h.id_eq (AList.lookup_eq_some_iff.2 he)).symm
  rw [hids]
  exact index.nodupKeys

theorem identity_eq (h : Kept service index) {identity : Identity} {row : IndexRow}
    (hlookup : index.lookup (mediaId service identity) = some row) : row.identity = identity :=
  (mediaId_injective service (h.id_eq hlookup)).symm

/-- The records by path are the records by id. -/
theorem lookup_recordsByIdentity (h : Kept service index) (identity : Identity) :
    index.recordsByIdentity.lookup identity =
      (index.lookup (mediaId service identity)).map (Prod.mk (mediaId service identity)) := by
  have hnodup : ((index.entries.map fun e => (e.2.identity, e.1, e.2)).map Prod.fst).Nodup := by
    rw [List.map_map]
    exact h.nodup_identities
  cases hrow : index.lookup (mediaId service identity) with
  | some row =>
      refine AList.lookup_insertAll_of_mem hnodup (List.mem_map.2 ⟨_,
        AList.lookup_eq_some_iff.1 hrow, ?_⟩)
      dsimp only
      rw [h.identity_eq hrow]
  | none =>
      refine (AList.lookup_insertAll_of_not_mem ?_).trans (AList.lookup_empty identity)
      intro hmem
      obtain ⟨e, he, heq⟩ := List.mem_map.1 hmem
      obtain ⟨e', he', rfl⟩ := List.mem_map.1 he
      have hlookup := AList.lookup_eq_some_iff.2 he'
      have hid := h.id_eq hlookup
      dsimp only at heq
      rw [hid, heq, hrow] at hlookup
      cases hlookup

/-- A file that can be written is written: no other record has its path. -/
theorem upsert_eq_ok (h : Kept service index) {f : Found} {row : IndexRow}
    (hrow : f.row? service = some row) :
    index.upsert service.sqlite (mediaId service f.identity) row
      = .ok (index.insert (mediaId service f.identity) row) := by
  obtain ⟨metadata, -, rfl, hfits⟩ := row?_eq_some hrow
  have hlimit := service.sqlite.variable_limit_range
  have hbind : service.sqlite.bind ((rowOf f.source f.entry f.file metadata).parameters
      (mediaId service f.identity)) = .ok () := by
    rw [Sqlite.bind, length_parameters, if_neg hlimit.not_gt, if_pos hfits]
  have hunique : (index.entries.any fun e => e.1 != mediaId service f.identity &&
      e.2.identity == (rowOf f.source f.entry f.file metadata).identity) = false := by
    rw [List.any_eq_false]
    intro e he hother
    simp only [Bool.and_eq_true, bne_iff_ne, ne_eq, beq_iff_eq] at hother
    exact hother.1 ((h.id_eq (AList.lookup_eq_some_iff.2 he)).trans
      (congrArg (mediaId service) hother.2))
  rw [Index.upsert, hbind, hunique]
  rfl

end Kept

/-! ### The scan -/

variable {existing : Index}

/-- What a scan of some media files has done: what it wrote, found and counted. -/
structure Advanced (service : Service) (existing : Index) (files : List Found)
    (scan scan' : Scan) : Prop where
  index : scan'.index = scan.index.insertAll (written service existing files)
  present : ∀ identity, identity ∈ scan'.present ↔
    identity ∈ files.map Found.identity ∨ identity ∈ scan.present
  discovered : scan'.discovered = scan.discovered + files.length
  added : scan'.added = scan.added + files.countP (isNew service existing)
  updated : scan'.updated = scan.updated +
    files.countP fun f => fresh service existing f && !isNew service existing f
  unchanged : scan'.unchanged = scan.unchanged +
    files.countP fun f => !fresh service existing f

/-- Nothing but the other counters has changed. -/
theorem Advanced.nil {scan scan' : Scan} (hindex : scan'.index = scan.index)
    (hpresent : scan'.present = scan.present) (hdiscovered : scan'.discovered = scan.discovered)
    (hadded : scan'.added = scan.added) (hupdated : scan'.updated = scan.updated)
    (hunchanged : scan'.unchanged = scan.unchanged) : Advanced service existing [] scan scan' where
  index := hindex
  present identity := by simp [hpresent]
  discovered := hdiscovered
  added := hadded
  updated := hupdated
  unchanged := hunchanged

theorem written_append (files files' : List Found) : written service existing (files ++ files') =
    written service existing files ++ written service existing files' :=
  List.filterMap_append

theorem filterMap_cons_toList {α β : Type} (g : α → Option β) (x : α) (xs : List α) :
    (x :: xs).filterMap g = (g x).toList ++ xs.filterMap g := by
  cases h : g x with
  | none => rw [List.filterMap_cons_none h]; rfl
  | some y => rw [List.filterMap_cons_some h]; rfl

/-- What a scan leaves is kept. -/
theorem Advanced.kept {files : List Found} {scan scan' : Scan}
    (h : Advanced service existing files scan scan') (hscan : Kept service scan.index) :
    Kept service scan'.index := by
  rw [h.index]
  exact hscan.insertAll

/-- One scan after the other. -/
theorem Advanced.append {files files' : List Found} {scan scan' scan'' : Scan}
    (h : Advanced service existing files scan scan')
    (h' : Advanced service existing files' scan' scan'') :
    Advanced service existing (files ++ files') scan scan'' where
  index := by
    rw [h'.index, h.index, written_append, AList.insertAll, AList.insertAll, AList.insertAll,
      List.foldl_append]
  present identity := by
    rw [h'.present, h.present, List.map_append, List.mem_append, or_left_comm, or_assoc]
  discovered := by rw [h'.discovered, h.discovered, List.length_append, Nat.add_assoc]
  added := by rw [h'.added, h.added, List.countP_append, Nat.add_assoc]
  updated := by rw [h'.updated, h.updated, List.countP_append, Nat.add_assoc]
  unchanged := by rw [h'.unchanged, h.unchanged, List.countP_append, Nat.add_assoc]

/-- The record of a path as `visitFile` looks it up. -/
theorem lookup_existing (h : Kept service existing) (f : Found) :
    (existing.recordsByIdentity.lookup (f.source, f.entry.relative_path)).map Prod.snd
      = existing.lookup (mediaId service f.identity) := by
  rw [h.lookup_recordsByIdentity, Option.map_map]
  exact Option.map_id'

theorem any_stamp (f : Found) : ((existing.lookup (mediaId service f.identity)).any fun old =>
    old.file_size = f.file.st_size ∧ old.mtime_ns = f.file.st_mtime_ns) =
      !fresh service existing f := (Bool.not_not _).symm

/-- A file without a record is fresh. -/
theorem fresh_of_isNew {f : Found} (h : isNew service existing f = true) :
    fresh service existing f = true := by
  rw [isNew, Option.isNone_iff_eq_none] at h
  rw [fresh, h]
  rfl

/-- The file can be written where that is needed. -/
def Writable (service : Service) (existing : Index) (f : Found) : Prop :=
  fresh service existing f = true → (f.row? service).isSome

/-- A file that is found, if it can be written where that is needed. -/
theorem visitFile_ok (hexisting : Kept service existing) {f : Found} {scan : Scan}
    (hscan : Kept service scan.index)
    (hrow : Writable service existing f) :
    ∃ scan', visitFile service existing.recordsByIdentity f.source f.entry f.file scan
        = .ok scan' ∧ Advanced service existing [f] scan scan' := by
  rw [visitFile, lookup_existing hexisting]
  dsimp only
  rw [any_stamp]
  cases hfresh : fresh service existing f with
  | false =>
      have hnew : isNew service existing f = false := by
        cases hnew : isNew service existing f with
        | false => rfl
        | true => rw [fresh_of_isNew hnew] at hfresh; cases hfresh
      refine ⟨_, rfl, ?_, fun identity => ?_, rfl, ?_, ?_, ?_⟩
      · simp [written, hfresh]
      · simp [Found.identity]
      · simp [hnew]
      · simp [hfresh]
      · simp [hfresh]
  | true =>
      obtain ⟨row, hrow⟩ := Option.isSome_iff_exists.1 (hrow hfresh)
      have hupsert := hscan.upsert_eq_ok hrow
      obtain ⟨metadata, hprobed, rfl, -⟩ := row?_eq_some hrow
      rw [Found.identity] at hupsert
      rw [if_neg (by simp), hprobed]
      dsimp only [bind, Except.bind]
      rw [hupsert]
      refine ⟨_, rfl, ?_, fun identity => ?_, rfl, ?_, ?_, ?_⟩
      · simp [written, hfresh, hrow, Found.identity]
      · simp [Found.identity]
      · simp [isNew, Found.identity]
      · cases hold : existing.lookup (mediaId service (f.source, f.entry.relative_path)) <;>
          simp [hfresh, isNew, Found.identity, hold]
      · simp [hfresh]

/-- A file that has to be written and cannot be. -/
theorem visitFile_error (hexisting : Kept service existing) {f : Found} {scan : Scan}
    (hfresh : fresh service existing f = true) (hrow : f.row? service = none) :
    ∃ error, visitFile service existing.recordsByIdentity f.source f.entry f.file scan
        = .error error := by
  rw [visitFile, lookup_existing hexisting]
  dsimp only
  rw [any_stamp, hfresh, if_neg (by simp)]
  cases hprobed : probed service f.source f.file with
  | error error => exact ⟨error, rfl⟩
  | ok metadata =>
      have hfits : ¬ ((rowOf f.source f.entry f.file metadata).parameters
          (mediaId service f.identity)).all Parameter.fits = true := by
        intro hfits
        rw [Found.row?, hprobed] at hrow
        simp only [Except.toOption, Option.bind_some, if_pos hfits] at hrow
        cases hrow
      have hbind : service.sqlite.bind ((rowOf f.source f.entry f.file metadata).parameters
          (mediaId service f.identity)) = .error .overflow := by
        rw [Sqlite.bind, length_parameters, if_neg service.sqlite.variable_limit_range.not_gt,
          if_neg hfits]
      refine ⟨.index .overflow, ?_⟩
      dsimp only [bind, Except.bind]
      rw [Found.identity] at hbind
      rw [Index.upsert, hbind]
      rfl

/-- An entry that is no media file counts for the other counters only. -/
theorem visit_of_not_found {e : MediaType × Entry} (h : found? service e = none) (scan : Scan) :
    ∃ scan', visit service existing.recordsByIdentity e.1 e.2 scan = .ok scan' ∧
      Advanced service existing [] scan scan' := by
  rw [found?] at h
  rw [visit]
  dsimp only
  split
  case isFalse => exact ⟨scan, rfl, .nil rfl rfl rfl rfl rfl rfl⟩
  case isTrue hfile =>
    split
    case isFalse => exact ⟨_, rfl, .nil rfl rfl rfl rfl rfl rfl⟩
    case isTrue hextension =>
      rw [if_pos ⟨hfile, hextension⟩, Option.map_eq_none_iff] at h
      cases hresolved : e.2.resolved with
      | none => exact ⟨_, rfl, .nil rfl rfl rfl rfl rfl rfl⟩
      | some file =>
          have hinside : file.inside = false := by
            rw [hresolved, Option.filter_eq_none_iff] at h
            simpa using h file rfl
          dsimp only
          rw [hinside, if_neg (by simp)]
          exact ⟨_, rfl, .nil rfl rfl rfl rfl rfl rfl⟩

/-- An entry that is a media file is visited as that. -/
theorem visit_of_found {e : MediaType × Entry} {f : Found} (h : found? service e = some f)
    (scan : Scan) (records : Table Identity (String × IndexRow)) :
    visit service records e.1 e.2 scan = visitFile service records f.source f.entry f.file
      { scan with extension_counts := extension service e.2 :: scan.extension_counts } := by
  rw [found?, Option.ite_none_right_eq_some] at h
  obtain ⟨⟨hfile, hextension⟩, h⟩ := h
  obtain ⟨file, hresolved, rfl⟩ := Option.map_eq_some_iff.1 h
  obtain ⟨hresolved, hinside⟩ := Option.filter_eq_some_iff.1 hresolved
  rw [visit, if_pos hfile]
  dsimp only
  rw [if_pos hextension, hresolved]
  dsimp only
  rw [if_pos hinside]

/-- One iteration that gets through. -/
theorem visit_ok (hexisting : Kept service existing) {e : MediaType × Entry} {scan : Scan}
    (hscan : Kept service scan.index)
    (hrow : ∀ f, found? service e = some f → Writable service existing f) :
    ∃ scan', visit service existing.recordsByIdentity e.1 e.2 scan = .ok scan' ∧
      Advanced service existing (found? service e).toList scan scan' := by
  cases hfound : found? service e with
  | none => exact visit_of_not_found hfound scan
  | some f =>
      rw [visit_of_found hfound]
      have hstart : Advanced service existing [] scan
          { scan with extension_counts := extension service e.2 :: scan.extension_counts } :=
        .nil rfl rfl rfl rfl rfl rfl
      obtain ⟨scan', hvisit, hone⟩ := @visitFile_ok service existing hexisting f
        { scan with extension_counts := extension service e.2 :: scan.extension_counts }
        hscan (hrow f hfound)
      exact ⟨scan', hvisit, hstart.append hone⟩

/-- **A scan whose fresh files can all be written.** -/
theorem visitAll_ok (hexisting : Kept service existing) {entries : List (MediaType × Entry)}
    {scan : Scan} (hscan : Kept service scan.index)
    (hrows : ∀ f ∈ entries.filterMap (found? service), Writable service existing f) :
    ∃ scan', visitAll service existing.recordsByIdentity entries scan = (scan', none) ∧
      Advanced service existing (entries.filterMap (found? service)) scan scan' := by
  induction entries generalizing scan with
  | nil => exact ⟨scan, rfl, .nil rfl rfl rfl rfl rfl rfl⟩
  | cons e entries ih =>
      rw [filterMap_cons_toList] at hrows ⊢
      obtain ⟨scan', hvisit, hone⟩ := visit_ok hexisting hscan fun f hf =>
        hrows f (List.mem_append_left _ (Option.mem_toList.2 hf))
      obtain ⟨scan'', hrest, hall⟩ := ih (hone.kept hscan) fun f hf =>
        hrows f (List.mem_append_right _ hf)
      refine ⟨scan'', ?_, hone.append hall⟩
      rw [visitAll, hvisit]
      exact hrest

/-- **A scan with a fresh file that cannot be written** stops there. -/
theorem visitAll_error (hexisting : Kept service existing) {entries : List (MediaType × Entry)}
    {scan : Scan} (hscan : Kept service scan.index) {f : Found}
    (hf : f ∈ entries.filterMap (found? service)) (hrow : ¬ Writable service existing f) :
    ∃ scan' error, visitAll service existing.recordsByIdentity entries scan
      = (scan', some error) ∧ Kept service scan'.index := by
  induction entries generalizing scan with
  | nil => exact absurd hf List.not_mem_nil
  | cons e entries ih =>
      rw [filterMap_cons_toList, List.mem_append, Option.mem_toList] at hf
      by_cases hhead : ∀ g, found? service e = some g → Writable service existing g
      · obtain ⟨scan', hvisit, hone⟩ := visit_ok hexisting hscan hhead
        rcases hf with hf | hf
        · exact absurd (hhead f hf) hrow
        · obtain ⟨scan'', error, hrest, hkept⟩ := ih (hone.kept hscan) hf
          refine ⟨scan'', error, ?_, hkept⟩
          rw [visitAll, hvisit]
          exact hrest
      · simp only [not_forall, Writable, exists_prop] at hhead
        obtain ⟨g, hg, hfresh, hnone⟩ := hhead
        obtain ⟨error, hvisit⟩ := @visitFile_error service existing hexisting g
          { scan with extension_counts := extension service e.2 :: scan.extension_counts }
          hfresh (by simpa using hnone)
        rw [← visit_of_found hg] at hvisit
        refine ⟨scan, error, ?_, hscan⟩
        rw [visitAll, hvisit]

end Discovery

end Media
end HomeCortex
