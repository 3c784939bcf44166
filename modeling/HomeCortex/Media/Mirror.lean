/-
# The media index mirrors the media roots

After a refresh the index has one record for each media file of the tree and no other, a file
that has not changed keeps its record, and every other one has been probed (`Mirrors`).  The
refresh gets there exactly when the records to remove are no more than the parameters that a
statement may have, and every fresh file can be probed and written (`Fits`): they are removed in
one statement with one parameter for each.
-/

import HomeCortex.Media.Discovery
import HomeCortex.Media.Timeline

namespace HomeCortex
namespace Media

section Mirror

variable (service : Service)

instance : LawfulBEq Identity := inferInstance

/-- The ids of the records whose path is that of no media file any more. -/
def vanished (index : Index) (tree : Tree) : List String :=
  (index.entries.filter fun e => e.2.identity ∉ (tree.mediaFiles service).map Found.identity).map
    Sigma.fst

variable {service} {index : Index} {tree : Tree}

theorem mem_vanished {id : String} : id ∈ vanished service index tree ↔
    ∃ row, index.lookup id = some row ∧
      row.identity ∉ (tree.mediaFiles service).map Found.identity := by
  simp only [vanished, List.mem_map, List.mem_filter, decide_eq_true_eq, Sigma.exists,
    AList.lookup_eq_some_iff]
  constructor
  · rintro ⟨id', row, ⟨hmem, hpath⟩, rfl⟩
    exact ⟨row, hmem, hpath⟩
  · rintro ⟨row, hmem, hpath⟩
    exact ⟨id, row, ⟨hmem, hpath⟩, rfl⟩

theorem nodup_vanished : (vanished service index tree).Nodup :=
  index.nodupKeys.sublist List.filter_sublist

namespace Kept

theorem mem_removedIds (h : Kept service index) {present : List Identity} {id : String} :
    id ∈ index.removedIds present ↔
      ∃ row, index.lookup id = some row ∧ row.identity ∉ present := by
  simp only [Index.removedIds, List.mem_map, List.mem_filter, decide_eq_true_eq, Sigma.exists]
  constructor
  · rintro ⟨identity, ⟨id', row⟩, ⟨hmem, hpath⟩, rfl⟩
    have hlookup := AList.lookup_eq_some_iff.2 hmem
    rw [h.lookup_recordsByIdentity] at hlookup
    obtain ⟨row', hrow, heq⟩ := Option.map_eq_some_iff.1 hlookup
    cases heq
    exact ⟨row, hrow, h.identity_eq hrow ▸ hpath⟩
  · rintro ⟨row, hrow, hpath⟩
    refine ⟨row.identity, (id, row), ⟨AList.lookup_eq_some_iff.1 ?_, hpath⟩, rfl⟩
    rw [h.lookup_recordsByIdentity, ← h.id_eq hrow, hrow]
    rfl

theorem nodup_removedIds (h : Kept service index) (present : List Identity) :
    (index.removedIds present).Nodup := by
  have hids : index.removedIds present = ((index.recordsByIdentity.entries.filter
      fun e => e.1 ∉ present).map Sigma.fst).map (mediaId service) := by
    rw [Index.removedIds, List.map_map]
    refine List.map_congr_left fun e he => ?_
    have hlookup := AList.lookup_eq_some_iff.2 (List.mem_of_mem_filter he)
    rw [h.lookup_recordsByIdentity] at hlookup
    obtain ⟨row, -, heq⟩ := Option.map_eq_some_iff.1 hlookup
    rw [← heq]
    rfl
  rw [hids]
  have hkeys : ((index.recordsByIdentity.entries.filter
      fun e => e.1 ∉ present).map Sigma.fst).Nodup :=
    index.recordsByIdentity.nodupKeys.sublist List.filter_sublist
  exact hkeys.map fun _ _ => mediaId_injective service

end Kept

/-! ### The records after a refresh -/

/-- The index with the fresh files written. -/
def scanned (service : Service) (index : Index) (tree : Tree) : Index :=
  index.insertAll (written service index (tree.mediaFiles service))

/-- The index with the fresh files written and the vanished records removed. -/
def refreshed (service : Service) (index : Index) (tree : Tree) : Index :=
  (scanned service index tree).deleteWhere fun id _ => id ∈ vanished service index tree

theorem Kept.scanned (h : Kept service index) : Kept service (scanned service index tree) :=
  h.insertAll

theorem nodup_written (files : List Found) (hnodup : (files.map Found.identity).Nodup) :
    ((written service index files).map Prod.fst).Nodup := by
  have hsub : ((written service index files).map Prod.fst).Sublist
      ((files.map Found.identity).map (mediaId service)) := by
    induction files with
    | nil => exact List.Sublist.refl _
    | cons f files ih =>
        have hrest := ih (List.nodup_cons.1 hnodup).2
        rw [written, filterMap_cons_toList, List.map_append, List.map_cons, List.map_cons]
        cases hwrite : (if fresh service index f then
            (f.row? service).map (Prod.mk (mediaId service f.identity)) else none) with
        | none => exact hrest.cons _
        | some e =>
            rw [Option.ite_none_right_eq_some] at hwrite
            obtain ⟨row, -, rfl⟩ := Option.map_eq_some_iff.1 hwrite.2
            exact hrest.cons_cons _
  exact (hnodup.map fun _ _ => mediaId_injective service).sublist hsub

/-- The id of a path that is no media file is not written. -/
theorem not_mem_written {files : List Found} {identity : Identity}
    (h : identity ∉ files.map Found.identity) :
    mediaId service identity ∉ (written service index files).map Prod.fst := by
  intro hmem
  obtain ⟨e, he, heq⟩ := List.mem_map.1 hmem
  obtain ⟨f, hf, -, -, hid⟩ := mem_written.1 he
  rw [hid] at heq
  exact h (List.mem_map.2 ⟨f, hf, mediaId_injective service heq⟩)

/-- The id of a media file is not that of a vanished record. -/
theorem not_mem_vanished (h : Kept service index) {f : Found} (hf : f ∈ tree.mediaFiles service) :
    mediaId service f.identity ∉ vanished service index tree := by
  intro hmem
  obtain ⟨row, hrow, hpath⟩ := mem_vanished.1 hmem
  rw [h.identity_eq hrow] at hpath
  exact hpath (List.mem_map.2 ⟨f, hf, rfl⟩)

/-- A fresh file has the row it was written as. -/
theorem lookup_refreshed_of_fresh (h : Kept service index) {f : Found}
    (hf : f ∈ tree.mediaFiles service) (hfresh : fresh service index f = true) {row : IndexRow}
    (hrow : f.row? service = some row) :
    (refreshed service index tree).lookup (mediaId service f.identity) = some row := by
  rw [refreshed, AList.lookup_deleteWhere_eq_some]
  refine ⟨?_, by simpa using not_mem_vanished h hf⟩
  refine AList.lookup_insertAll_of_mem (nodup_written _ (nodup_mediaFiles service tree)) ?_
  exact mem_written.2 ⟨f, hf, hfresh, hrow, rfl⟩

/-- A file that has not changed has the record it had. -/
theorem lookup_refreshed_of_not_fresh (h : Kept service index) {f : Found}
    (hf : f ∈ tree.mediaFiles service) (hfresh : fresh service index f = false) :
    (refreshed service index tree).lookup (mediaId service f.identity)
      = index.lookup (mediaId service f.identity) := by
  have hnot : mediaId service f.identity ∉
      (written service index (tree.mediaFiles service)).map Prod.fst := by
    intro hmem
    obtain ⟨e, he, heq⟩ := List.mem_map.1 hmem
    obtain ⟨g, hg, hgfresh, -, hid⟩ := mem_written.1 he
    have hsame : g.identity = f.identity := mediaId_injective service (hid.symm.trans heq)
    obtain rfl := List.inj_on_of_nodup_map (nodup_mediaFiles service tree) hg hf hsame
    rw [hfresh] at hgfresh
    cases hgfresh
  rw [refreshed, AList.lookup_deleteWhere_of_keep, scanned,
    AList.lookup_insertAll_of_not_mem hnot]
  intro _ _
  simpa using not_mem_vanished h hf

/-- Every record is that of a media file. -/
theorem exists_of_lookup_refreshed (h : Kept service index) {id : String} {row : IndexRow}
    (hlookup : (refreshed service index tree).lookup id = some row) :
    ∃ f ∈ tree.mediaFiles service, id = mediaId service f.identity := by
  rw [refreshed, AList.lookup_deleteWhere_eq_some] at hlookup
  obtain ⟨hlookup, hvanished⟩ := hlookup
  rcases AList.lookup_insertAll_cases hlookup with hmem | hold
  · obtain ⟨f, hf, -, -, hid⟩ := mem_written.1 hmem
    exact ⟨f, hf, hid⟩
  · by_contra hnone
    refine absurd (decide_eq_false_iff_not.1 hvanished) (not_not.2 (mem_vanished.2
      ⟨row, hold, fun hpath => ?_⟩))
    obtain ⟨f, hf, hpath⟩ := List.mem_map.1 hpath
    exact hnone ⟨f, hf, hpath ▸ h.id_eq hold⟩

theorem kept_refreshed (h : Kept service index) : Kept service (refreshed service index tree) :=
  h.scanned.deleteWhere _

/-! ### A refresh -/

/-- What a refresh needs: each fresh file can be probed and written, and the records to remove
are no more than the parameters of a statement. -/
def Fits (service : Service) (index : Index) (tree : Tree) : Prop :=
  (∀ f ∈ tree.mediaFiles service, Writable service index f) ∧
    (vanished service index tree).length ≤ service.sqlite.variable_limit

/-- The records that are missing after the scan are those that had vanished before it. -/
theorem mem_removedIds_scanned (h : Kept service index) {present : List Identity}
    (hpresent : ∀ identity, identity ∈ present ↔
      identity ∈ (tree.mediaFiles service).map Found.identity) (id : String) :
    id ∈ (scanned service index tree).removedIds present ↔ id ∈ vanished service index tree := by
  rw [h.scanned.mem_removedIds, mem_vanished]
  refine exists_congr fun row => ?_
  rw [hpresent, and_congr_left_iff]
  intro hpath
  have hsame : (scanned service index tree).lookup (mediaId service row.identity)
      = index.lookup (mediaId service row.identity) :=
    AList.lookup_insertAll_of_not_mem (not_mem_written hpath)
  constructor
  · intro hlookup
    rwa [h.scanned.id_eq hlookup, ← hsame, ← h.scanned.id_eq hlookup]
  · intro hlookup
    rwa [h.id_eq hlookup, hsame, ← h.id_eq hlookup]

/-- The parameters of the statement that removes the vanished records. -/
theorem bind_removedIds (h : Kept service index) {present : List Identity}
    (hpresent : ∀ identity, identity ∈ present ↔
      identity ∈ (tree.mediaFiles service).map Found.identity) :
    ((scanned service index tree).removedIds present).length
        = (vanished service index tree).length ∧
      service.sqlite.bind (((scanned service index tree).removedIds present).map .text) =
        if service.sqlite.variable_limit < (vanished service index tree).length then
          .error .tooManyVariables else .ok () := by
  have hperm := (List.perm_ext_iff_of_nodup (h.scanned.nodup_removedIds present)
    nodup_vanished).2 (mem_removedIds_scanned h hpresent)
  refine ⟨hperm.length_eq, ?_⟩
  rw [Sqlite.bind, List.length_map, hperm.length_eq]
  congr 1
  rw [if_pos]
  rw [List.all_map, List.all_eq_true]
  exact fun _ _ => rfl

/-- Removing the vanished records, where they are not too many. -/
theorem removeMissing_ok (h : Kept service index) {present : List Identity}
    (hpresent : ∀ identity, identity ∈ present ↔
      identity ∈ (tree.mediaFiles service).map Found.identity)
    (hlimit : (vanished service index tree).length ≤ service.sqlite.variable_limit) :
    ∃ ids, (scanned service index tree).removeMissing service.sqlite present
      = .ok (refreshed service index tree, ids) ∧
        ids.length = (vanished service index tree).length := by
  obtain ⟨hlength, hbind⟩ := bind_removedIds h hpresent
  refine ⟨(scanned service index tree).removedIds present, ?_, hlength⟩
  rw [if_neg hlimit.not_gt] at hbind
  rw [Index.removeMissing]
  split
  case isTrue hnil =>
    rw [hnil, List.length_nil, eq_comm, List.length_eq_zero_iff] at hlength
    rw [refreshed, hlength, hnil]
    refine congrArg (fun index : Index => Except.ok (index, [])) (AList.ext ?_)
    simp [AList.deleteWhere]
  case isFalse =>
    rw [hbind]
    refine congrArg (fun index : Index => Except.ok (index, _)) ?_
    simp only [mem_removedIds_scanned h hpresent, refreshed]

/-- Too many vanished records. -/
theorem removeMissing_error (h : Kept service index) {present : List Identity}
    (hpresent : ∀ identity, identity ∈ present ↔
      identity ∈ (tree.mediaFiles service).map Found.identity)
    (hlimit : ¬ (vanished service index tree).length ≤ service.sqlite.variable_limit) :
    (scanned service index tree).removeMissing service.sqlite present
      = .error .tooManyVariables := by
  obtain ⟨hlength, hbind⟩ := bind_removedIds h hpresent
  rw [if_pos (by omega)] at hbind
  rw [Index.removeMissing]
  rw [if_neg, hbind]
  · rfl
  · intro hnil
    rw [hnil, List.length_nil] at hlength
    omega

end Mirror

end Media
end HomeCortex
