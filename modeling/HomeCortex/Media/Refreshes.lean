/-
# Runs of media refreshes

From any index that refreshes have left, also refreshes that failed, the next refresh makes the
index the mirror of the tree exactly when `Fits` holds (`refresh_mirrors_iff`): the records that
have vanished are removed in one statement that binds a parameter for each, so with more of them
than the database accepts the refresh fails and they stay.  Where every refresh of a run fits,
the records hold the metadata that was taken when the size or the modification time last
changed (`lookup_after`), which `lastTaken` tells from the trees alone.
-/

import HomeCortex.Media.Mirror

namespace HomeCortex
namespace Media

section Refreshes

variable (service : Service)

/-- The counts of a refresh. -/
structure Counted (index : Index) (tree : Tree) (result : RefreshResult) : Prop where
  discovered : result.discovered = (tree.mediaFiles service).length
  added : result.added = (tree.mediaFiles service).countP (isNew service index)
  updated : result.updated = (tree.mediaFiles service).countP
    fun f => fresh service index f && !isNew service index f
  unchanged : result.unchanged = (tree.mediaFiles service).countP
    fun f => !fresh service index f
  removed : result.removed = (vanished service index tree).length

variable {service} {index : Index} {tree : Tree}

/-- Each media file is counted once. -/
theorem Counted.sum {result : RefreshResult} (h : Counted service index tree result) :
    result.discovered = result.added + result.updated + result.unchanged := by
  rw [h.discovered, h.added, h.updated, h.unchanged]
  induction tree.mediaFiles service with
  | nil => rfl
  | cons f files ih =>
      have hnew := @fresh_of_isNew service index f
      simp only [List.length_cons, List.countP_cons, ih]
      cases hisNew : isNew service index f <;> cases hfresh : fresh service index f <;>
        simp_all <;> omega

/-- **A refresh that fits.** -/
theorem refresh_ok (h : Kept service index) (hfits : Fits service index tree) :
    ∃ result, refresh service tree index = (refreshed service index tree, .ok result) ∧
      Counted service index tree result := by
  obtain ⟨scan, hscan, hadvanced⟩ := @visitAll_ok service index h tree.listing
    (Scan.start index) h hfits.1
  have hpresent : ∀ identity, identity ∈ scan.present ↔
      identity ∈ (tree.mediaFiles service).map Found.identity := by
    intro identity
    rw [hadvanced.present]
    simp [Scan.start, Tree.mediaFiles]
  obtain ⟨ids, hremove, hlength⟩ := removeMissing_ok h hpresent hfits.2
  have hindex : scan.index = scanned service index tree := hadvanced.index
  rw [refresh, hscan]
  dsimp only
  rw [hindex, hremove]
  refine ⟨_, rfl, ?_, ?_, ?_, ?_, hlength⟩
  · exact hadvanced.discovered.trans (Nat.zero_add _)
  · exact hadvanced.added.trans (Nat.zero_add _)
  · exact hadvanced.updated.trans (Nat.zero_add _)
  · exact hadvanced.unchanged.trans (Nat.zero_add _)

/-- A refresh that does not fit fails, and leaves an index of the same kind. -/
theorem refresh_error (h : Kept service index) (hfits : ¬ Fits service index tree) :
    ∃ index' error, refresh service tree index = (index', .error error) ∧ Kept service index' := by
  by_cases hrows : ∀ f ∈ tree.mediaFiles service, Writable service index f
  · obtain ⟨scan, hscan, hadvanced⟩ := @visitAll_ok service index h tree.listing
      (Scan.start index) h hrows
    have hpresent : ∀ identity, identity ∈ scan.present ↔
        identity ∈ (tree.mediaFiles service).map Found.identity := by
      intro identity
      rw [hadvanced.present]
      simp [Scan.start, Tree.mediaFiles]
    have hindex : scan.index = scanned service index tree := hadvanced.index
    have hremove := removeMissing_error h hpresent fun hlimit => hfits ⟨hrows, hlimit⟩
    rw [refresh, hscan]
    dsimp only
    rw [hindex, hremove]
    exact ⟨_, _, rfl, h.scanned⟩
  · simp only [not_forall] at hrows
    obtain ⟨f, hf, hrow⟩ := hrows
    obtain ⟨scan, error, hscan, hkept⟩ := @visitAll_error service index h tree.listing
      (Scan.start index) h f hf hrow
    rw [refresh, hscan]
    exact ⟨_, _, rfl, hkept⟩

/-- Every refresh leaves an index of the same kind. -/
theorem Kept.refresh (h : Kept service index) : Kept service (refresh service tree index).1 := by
  by_cases hfits : Fits service index tree
  · obtain ⟨result, hrefresh, -⟩ := refresh_ok h hfits
    rw [hrefresh]
    exact kept_refreshed h
  · obtain ⟨index', error, hrefresh, hkept⟩ := refresh_error h hfits
    rw [hrefresh]
    exact hkept

/-- The index that refreshes of some trees leave, one after the other, from the empty one. -/
def after (service : Service) (history : List Tree) : Index :=
  history.foldl (fun index tree => (Media.refresh service tree index).1) ∅

theorem kept_after (history : List Tree) : Kept service (after service history) := by
  induction history using List.reverseRecOn with
  | nil => exact kept_empty service
  | append_singleton history tree ih =>
      rw [after, List.foldl_append]
      exact ih.refresh

/-! ### The mirror -/

/-- The record of a file that is in the tree as it is now. -/
structure Describes (f : Found) (row : IndexRow) : Prop where
  media_type : row.media_type = f.source
  source : row.source = f.source
  relative_path : row.relative_path = f.entry.relative_path
  filename : row.filename = String.ofList f.entry.name
  file_size : row.file_size = f.file.st_size
  mtime_ns : row.mtime_ns = f.file.st_mtime_ns

/-- What a reader of the pages of a type reads: each record of the type once, the latest
capture time first. -/
structure Covers (index : Index) (media_type : Option MediaType)
    (rows : List (String × IndexRow)) : Prop where
  nodup : (rows.map Prod.fst).Nodup
  mem : ∀ id row, (id, row) ∈ rows ↔
    index.lookup id = some row ∧ media_type.all (row.media_type = ·) = true
  order : ∃ instants : List Int, (rows.map fun e => e.2.instant?) = instants.map some ∧
    instants.Pairwise (· ≥ ·)

/-- The index after a refresh of the tree, with its result, mirrors the tree. -/
structure Mirrors (service : Service) (index : Index) (tree : Tree) (index' : Index)
    (result : RefreshResult) : Prop where
  found : ∀ f ∈ tree.mediaFiles service, ∃ row,
    index'.lookup (mediaId service f.identity) = some row ∧ Describes f row
  only : ∀ id row, index'.lookup id = some row →
    ∃ f ∈ tree.mediaFiles service, id = mediaId service f.identity
  kept : ∀ f ∈ tree.mediaFiles service, fresh service index f = false →
    index'.lookup (mediaId service f.identity) = index.lookup (mediaId service f.identity)
  taken : ∀ f ∈ tree.mediaFiles service, fresh service index f = true → ∃ metadata,
    probed service f.source f.file = .ok metadata ∧
      index'.lookup (mediaId service f.identity)
        = some (rowOf f.source f.entry f.file metadata)
  counted : Counted service index tree result
  sum : result.discovered = result.added + result.updated + result.unchanged
  again : ∃ result', refresh service tree index' = (index', .ok result') ∧
    result'.added = 0 ∧ result'.updated = 0 ∧ result'.removed = 0
  pages : ∀ (page_size : Nat) (limit : Option Nat) (media_type : Option MediaType),
    1 ≤ limit.getD page_size → ∃ fuel rows,
      Paging.follow (fun offset =>
        ((index'.mediaPage page_size media_type limit offset).items,
          (index'.mediaPage page_size media_type limit offset).next_offset)) fuel 0 = some rows ∧
      Covers index' media_type rows

/-- The refresh succeeds and mirrors the tree. -/
def Mirrored (service : Service) (index : Index) (tree : Tree) : Prop :=
  ∃ index' result, refresh service tree index = (index', .ok result) ∧
    Mirrors service index tree index' result

/-- The pages of a kept index cover it. -/
theorem covers_timeline (h : Kept service index) (media_type : Option MediaType) :
    Covers index media_type (index.timeline media_type) := by
  have htimes : ∀ e ∈ index.timeline media_type,
      ∃ time : UtcTime, e.2.captured_at = time.isoformat := by
    intro e he
    obtain ⟨source, entry, file, metadata, hrow⟩ :=
      h.row_eq ((index.mem_timeline media_type).1 he).1
    exact ⟨metadata.captured_at, hrow ▸ rfl⟩
  refine ⟨index.nodup_timeline media_type, fun _ _ => index.mem_timeline media_type, ?_⟩
  have hsorted := index.pairwise_timeline media_type
  generalize index.timeline media_type = rows at htimes hsorted
  induction rows with
  | nil => exact ⟨[], rfl, List.Pairwise.nil⟩
  | cons e rows ih =>
      obtain ⟨time, htime⟩ := htimes e List.mem_cons_self
      rw [List.pairwise_cons] at hsorted
      obtain ⟨instants, hinstants, hpairs⟩ :=
        ih (fun e he => htimes e (List.mem_cons_of_mem _ he)) hsorted.2
      refine ⟨time.value :: instants, ?_, List.pairwise_cons.2 ⟨fun instant hinstant => ?_, hpairs⟩⟩
      · rw [List.map_cons, List.map_cons, hinstants, instant?_of_isoformat htime]
      · have hmem : some instant ∈ rows.map fun e => e.2.instant? := by
          rw [hinstants]
          exact List.mem_map_of_mem hinstant
        obtain ⟨e', he', heq⟩ := List.mem_map.1 hmem
        obtain ⟨time', htime'⟩ := htimes e' (List.mem_cons_of_mem _ he')
        have hle := hsorted.1 e' he'
        rw [instant?_of_isoformat htime', Option.some.injEq] at heq
        rw [htime, htime'] at hle
        rw [← heq]
        exact UtcTime.value_le_of_isoformat_le hle

/-- A record with the size and the modification time of the file describes it. -/
theorem describes_of_kept (h : Kept service index) {f : Found} {row : IndexRow}
    (hlookup : index.lookup (mediaId service f.identity) = some row)
    (hsize : row.file_size = f.file.st_size) (hmtime : row.mtime_ns = f.file.st_mtime_ns) :
    Describes f row := by
  have hidentity := h.identity_eq hlookup
  obtain ⟨source, entry, file, metadata, rfl⟩ := h.row_eq hlookup
  obtain ⟨hsource, hpath⟩ := Prod.mk.inj hidentity
  refine ⟨hsource, hsource, hpath, ?_, hsize, hmtime⟩
  have hname : entry.name = f.entry.name := by
    rw [Entry.name, Entry.name]
    exact congrArg _ (congrArg _ (congrArg _ (congrArg String.toList hpath)))
  exact congrArg String.ofList hname

theorem describes_rowOf (f : Found) (metadata : Metadata) :
    Describes f (rowOf f.source f.entry f.file metadata) :=
  ⟨rfl, rfl, rfl, rfl, rfl, rfl⟩

/-- What a file that is not fresh has in the index. -/
theorem exists_of_not_fresh {f : Found} (hfresh : fresh service index f = false) :
    ∃ row, index.lookup (mediaId service f.identity) = some row ∧
      row.file_size = f.file.st_size ∧ row.mtime_ns = f.file.st_mtime_ns := by
  rw [fresh, Bool.not_eq_false', Option.any_eq_true] at hfresh
  obtain ⟨row, hrow, hstamp⟩ := hfresh
  exact ⟨row, hrow, by simpa using hstamp⟩

/-- A record of the file as it is makes it not fresh. -/
theorem not_fresh_of_describes {f : Found} {row : IndexRow}
    (hlookup : index.lookup (mediaId service f.identity) = some row) (h : Describes f row) :
    fresh service index f = false := by
  rw [fresh, hlookup, Bool.not_eq_false', Option.any_some, decide_eq_true_eq]
  exact ⟨h.file_size, h.mtime_ns⟩

/-- Each media file has its record after a refresh that fits. -/
theorem exists_describes (h : Kept service index) (hfits : Fits service index tree) {f : Found}
    (hf : f ∈ tree.mediaFiles service) : ∃ row,
      (refreshed service index tree).lookup (mediaId service f.identity) = some row ∧
        Describes f row := by
  cases hfresh : fresh service index f with
  | false =>
      obtain ⟨row, hrow, hsize, hmtime⟩ := exists_of_not_fresh hfresh
      refine ⟨row, ?_, describes_of_kept h hrow hsize hmtime⟩
      rw [lookup_refreshed_of_not_fresh h hf hfresh, hrow]
  | true =>
      obtain ⟨row, hrow⟩ := Option.isSome_iff_exists.1 (hfits.1 f hf hfresh)
      obtain ⟨metadata, -, heq, -⟩ := row?_eq_some hrow
      exact ⟨row, lookup_refreshed_of_fresh h hf hfresh hrow, heq ▸ describes_rowOf f metadata⟩

/-- A second refresh finds nothing to do. -/
theorem refresh_again (h : Kept service index) (hfits : Fits service index tree) :
    ∃ result, refresh service tree (refreshed service index tree)
        = (refreshed service index tree, .ok result) ∧
      result.added = 0 ∧ result.updated = 0 ∧ result.removed = 0 := by
  have hkept : Kept service (refreshed service index tree) := kept_refreshed h
  have hfresh : ∀ f ∈ tree.mediaFiles service,
      fresh service (refreshed service index tree) f = false := by
    intro f hf
    obtain ⟨row, hrow, hdescribes⟩ := exists_describes h hfits hf
    exact not_fresh_of_describes hrow hdescribes
  have hvanished : vanished service (refreshed service index tree) tree = [] := by
    refine List.eq_nil_iff_forall_not_mem.2 fun id hid => ?_
    obtain ⟨row, hrow, hpath⟩ := mem_vanished.1 hid
    obtain ⟨f, hf, rfl⟩ := exists_of_lookup_refreshed h hrow
    exact not_mem_vanished hkept hf hid
  have hwritten : written service (refreshed service index tree) (tree.mediaFiles service) = [] := by
    refine List.filterMap_eq_nil_iff.2 fun f hf => ?_
    rw [hfresh f hf]
    rfl
  have hsame : refreshed service (refreshed service index tree) tree
      = refreshed service index tree := by
    rw [refreshed, scanned, hwritten, hvanished]
    refine AList.ext ?_
    simp [AList.deleteWhere]
  obtain ⟨result, hrefresh, hcounted⟩ := @refresh_ok service _ tree hkept
    ⟨fun f hf hf' => (by rw [hfresh f hf] at hf'; cases hf'), by rw [hvanished]; exact Nat.zero_le _⟩
  have hnew : ∀ f ∈ tree.mediaFiles service,
      isNew service (refreshed service index tree) f = false := by
    intro f hf
    obtain ⟨row, hrow, -⟩ := exists_describes h hfits hf
    rw [isNew, hrow]
    rfl
  rw [hsame] at hrefresh
  refine ⟨result, hrefresh, ?_, ?_, ?_⟩
  · rw [hcounted.added, List.countP_eq_zero]
    exact fun f hf => (by simp [hnew f hf])
  · rw [hcounted.updated, List.countP_eq_zero]
    exact fun f hf => (by simp [hfresh f hf])
  · rw [hcounted.removed, hvanished]
    rfl

/-- **A refresh that fits mirrors the tree.** -/
theorem mirrored_of_fits (h : Kept service index) (hfits : Fits service index tree) :
    Mirrored service index tree := by
  obtain ⟨result, hrefresh, hcounted⟩ := refresh_ok h hfits
  refine ⟨_, result, hrefresh, {
    found := fun f hf => exists_describes h hfits hf
    only := fun id row => exists_of_lookup_refreshed h
    kept := fun f hf => lookup_refreshed_of_not_fresh h hf
    taken := fun f hf hfresh => ?_
    counted := hcounted
    sum := hcounted.sum
    again := refresh_again h hfits
    pages := fun page_size limit media_type hlimit => ⟨_, _,
      Index.follow_mediaPage _ media_type hlimit, covers_timeline (kept_refreshed h) media_type⟩ }⟩
  obtain ⟨row, hrow⟩ := Option.isSome_iff_exists.1 (hfits.1 f hf hfresh)
  obtain ⟨metadata, hprobed, heq, -⟩ := row?_eq_some hrow
  refine ⟨metadata, hprobed, ?_⟩
  rw [← heq]
  exact lookup_refreshed_of_fresh h hf hfresh hrow

/-- A refresh that mirrors the tree fits. -/
theorem fits_of_mirrored (h : Kept service index) (hmirrored : Mirrored service index tree) :
    Fits service index tree := by
  by_contra hfits
  obtain ⟨index', error, hrefresh, -⟩ := refresh_error h hfits
  obtain ⟨_, _, hok, -⟩ := hmirrored
  rw [hrefresh] at hok
  cases hok

/-! ### Runs -/

/-- What the trees tell of a path: its file as it is now, and the metadata that was taken when
its size or its modification time last changed. -/
def observe (service : Service) (journal : Identity → Option (Found × Metadata)) (tree : Tree)
    (identity : Identity) : Option (Found × Metadata) :=
  ((tree.mediaFiles service).find? fun f => f.identity = identity).bind fun f =>
    let taken := (probed service f.source f.file).toOption.map (Prod.mk f)
    match journal identity with
    | none => taken
    | some (seen, metadata) =>
        if seen.file.st_size = f.file.st_size ∧ seen.file.st_mtime_ns = f.file.st_mtime_ns then
          some (f, metadata)
        else taken

/-- What a run of trees tells of a path. -/
def lastTaken (service : Service) (history : List Tree) : Identity → Option (Found × Metadata) :=
  history.foldl (observe service) fun _ => none

/-- Every refresh of the run fits. -/
def AllFit (service : Service) (history : List Tree) : Prop :=
  ∀ before tree rest, history = before ++ tree :: rest → Fits service (after service before) tree

/-- The row of a file with its metadata. -/
def rowOfTaken (taken : Found × Metadata) : IndexRow :=
  rowOf taken.1.source taken.1.entry taken.1.file taken.2

theorem identity_of_observe {journal : Identity → Option (Found × Metadata)}
    {identity : Identity} {taken : Found × Metadata}
    (h : observe service journal tree identity = some taken) : taken.1.identity = identity := by
  obtain ⟨f, hfind, h⟩ := Option.bind_eq_some_iff.1 h
  have hidentity : f.identity = identity := by simpa using List.find?_some hfind
  have htaken : ∀ taken' : Found × Metadata,
      (probed service f.source f.file).toOption.map (Prod.mk f) = some taken' →
        taken'.1 = f := by
    intro taken' htaken
    obtain ⟨metadata, -, rfl⟩ := Option.map_eq_some_iff.1 htaken
    rfl
  have hsame : taken.1 = f := by
    dsimp only at h
    split at h
    · exact htaken taken h
    · split at h
      · cases h
        rfl
      · exact htaken taken h
  rw [hsame, hidentity]

/-- Two files of one path, size and modification time have the same row. -/
theorem rowOf_congr {f g : Found} (hidentity : f.identity = g.identity)
    (hsize : f.file.st_size = g.file.st_size)
    (hmtime : f.file.st_mtime_ns = g.file.st_mtime_ns) (metadata : Metadata) :
    rowOf f.source f.entry f.file metadata = rowOf g.source g.entry g.file metadata := by
  obtain ⟨hsource, hpath⟩ := Prod.mk.inj hidentity
  rw [rowOf, rowOf, Entry.name, Entry.name, hsource, hpath, hsize, hmtime]

/-- A fresh file has the row of what is taken now. -/
theorem lookup_refreshed_eq_taken (h : Kept service index) (hfits : Fits service index tree)
    {f : Found} (hf : f ∈ tree.mediaFiles service) (hfresh : fresh service index f = true) :
    (refreshed service index tree).lookup (mediaId service f.identity)
      = ((probed service f.source f.file).toOption.map (Prod.mk f)).map rowOfTaken := by
  obtain ⟨row, hrow⟩ := Option.isSome_iff_exists.1 (hfits.1 f hf hfresh)
  obtain ⟨metadata, hprobed, heq, -⟩ := row?_eq_some hrow
  rw [lookup_refreshed_of_fresh h hf hfresh hrow, hprobed, heq]
  rfl

/-- **One refresh** that fits does to the records what it does to the journal. -/
theorem lookup_refreshed_eq_observe (h : Kept service index) (hfits : Fits service index tree)
    {journal : Identity → Option (Found × Metadata)}
    (hidentity : ∀ identity taken, journal identity = some taken → taken.1.identity = identity)
    (hjournal : ∀ identity, index.lookup (mediaId service identity)
      = (journal identity).map rowOfTaken) (identity : Identity) :
    (refreshed service index tree).lookup (mediaId service identity)
      = (observe service journal tree identity).map rowOfTaken := by
  rw [observe]
  cases hfind : (tree.mediaFiles service).find? fun f => f.identity = identity with
  | none =>
      cases hlookup : (refreshed service index tree).lookup (mediaId service identity) with
      | none => rfl
      | some row =>
          obtain ⟨f, hf, hid⟩ := exists_of_lookup_refreshed h hlookup
          have := List.find?_eq_none.1 hfind f hf
          exact absurd (decide_eq_true (mediaId_injective service hid).symm) this
  | some f =>
      have hf := List.mem_of_find?_eq_some hfind
      obtain rfl : f.identity = identity := by simpa using List.find?_some hfind
      have hold := hjournal f.identity
      rw [Option.bind_some]
      dsimp only
      cases htaken : journal f.identity with
      | none =>
          rw [htaken] at hold
          refine lookup_refreshed_eq_taken h hfits hf ?_
          rw [fresh, hold]
          rfl
      | some taken =>
          obtain ⟨seen, metadata⟩ := taken
          rw [htaken] at hold
          dsimp only
          split
          case isTrue hstamp =>
            have hfresh : fresh service index f = false := by
              rw [fresh, hold]
              simpa [rowOfTaken, rowOf, IndexRow.of] using hstamp
            rw [lookup_refreshed_of_not_fresh h hf hfresh, hold]
            exact congrArg some
              (rowOf_congr (hidentity _ _ htaken) hstamp.1 hstamp.2 metadata)
          case isFalse hstamp =>
            refine lookup_refreshed_eq_taken h hfits hf ?_
            rw [fresh, hold]
            simpa [rowOfTaken, rowOf, IndexRow.of] using not_and_or.1 hstamp

theorem identity_of_lastTaken (history : List Tree) {identity : Identity}
    {taken : Found × Metadata} (h : lastTaken service history identity = some taken) :
    taken.1.identity = identity := by
  induction history using List.reverseRecOn with
  | nil => cases h
  | append_singleton history tree _ =>
      rw [lastTaken, List.foldl_append] at h
      exact identity_of_observe h

/-- **Metadata.**  In a run whose refreshes fit, a record has the metadata that was taken when
its file last changed. -/
theorem lookup_after (history : List Tree) (hfit : AllFit service history) (identity : Identity) :
    (after service history).lookup (mediaId service identity)
      = (lastTaken service history identity).map rowOfTaken := by
  induction history using List.reverseRecOn generalizing identity with
  | nil => rfl
  | append_singleton history tree ih =>
      have hkept := @kept_after service history
      have hlast := hfit history tree [] rfl
      have hbefore : AllFit service history := by
        intro before tree' rest hsplit
        exact hfit before tree' (rest ++ [tree]) (by rw [hsplit]; simp)
      obtain ⟨result, hrefresh, -⟩ := refresh_ok hkept hlast
      have hafter : after service (history ++ [tree])
          = refreshed service (after service history) tree := by
        rw [after, List.foldl_append]
        exact congrArg Prod.fst hrefresh
      have hjournal : lastTaken service (history ++ [tree])
          = observe service (lastTaken service history) tree := by
        rw [lastTaken, List.foldl_append]
        rfl
      rw [hafter, hjournal]
      exact lookup_refreshed_eq_observe hkept hlast
        (fun _ _ => identity_of_lastTaken history) (fun identity => ih hbefore identity) identity

/-- **Refreshing the media index.**  After any refreshes, also failed ones, the next one mirrors
its tree exactly when it fits; and where all refreshes of a run fit, each record has the metadata
that was taken when its file last changed. -/
theorem refresh_mirrors_iff (service : Service) :
    (∀ (history : List Tree) (tree : Tree),
      Mirrored service (after service history) tree ↔ Fits service (after service history) tree) ∧
    ∀ history : List Tree, AllFit service history → ∀ identity,
      (after service history).lookup (mediaId service identity)
        = (lastTaken service history identity).map rowOfTaken :=
  ⟨fun history _ => ⟨fits_of_mirrored (kept_after history), mirrored_of_fits (kept_after history)⟩,
    lookup_after⟩

end Refreshes

/-! ### Too many files at once -/

/-- A media id that spells out its path. -/
def plainMediaId (type : MediaType) (path : String) : String := type.name ++ "/" ++ path

theorem plainMediaId_injective {type type' : MediaType} {path path' : String}
    (h : plainMediaId type path = plainMediaId type' path') : type = type' ∧ path = path' := by
  have htext := congrArg String.toList h
  simp only [plainMediaId, String.toList_append] at htext
  cases type <;> cases type' <;> simp [MediaType.name] at htext ⊢
  all_goals exact String.toList_inj.1 htext

/-- A service whose database accepts sixteen parameters. -/
def smallService : Service where
  stable_media_id := plainMediaId
  injective := plainMediaId_injective
  folding := ⟨fun c => [c], fun _ _ => rfl⟩
  sqlite := ⟨16, le_rfl⟩
  reading := ⟨[], fun _ => .error (.uncaught "OverflowError")⟩

/-- A photo of no size, without tags. -/
def photoEntry (n : Nat) : Entry where
  relative_path := padded 2 n ++ ".jpg"
  is_file := true
  resolved := some ⟨true, 0, 0, 0, .ok ⟨[], 1, 1, none, none, none⟩, .error (.caught "OSError")⟩

theorem nodup_photoEntries :
    (((List.range 17).map photoEntry).map Entry.relative_path).Nodup := by
  decide +kernel

/-- Seventeen photos. -/
def seventeenPhotos : Tree where
  photo := some ⟨(List.range 17).map photoEntry, nodup_photoEntries⟩
  video := none

/-- The photo root is empty. -/
def noPhotos : Tree where
  photo := some ⟨[], List.nodup_nil⟩
  video := none

example : (refresh smallService seventeenPhotos ∅).2.toOption.map RefreshResult.added = some 17 := by
  decide +kernel

/-- All photos vanish, and their records are too many for one statement. -/
theorem vanished_photos_not_mirrored :
    ¬ Mirrored smallService (after smallService [seventeenPhotos]) noPhotos := by
  intro hmirrored
  have hfits := fits_of_mirrored (kept_after _) hmirrored
  have hmany : (vanished smallService (after smallService [seventeenPhotos]) noPhotos).length = 17 := by
    decide +kernel
  exact absurd hfits.2 (by rw [hmany]; decide)

end Media
end HomeCortex
