/-
# Coherence of the thumbnail cache

A refresh does not take the lock of an item when it removes its thumbnail, and a generation
does not look again at the index when it puts its picture in place.  The cache stays coherent
in a run in which no generation is caught between the two (`orderly`): none reads the source of
an item that is not indexed any more, and none holds a picture of an old version when the
refresh removes the thumbnail.  `runs_coherent` is the result; the two runs after it show what
happens otherwise.
-/

import HomeCortex.Media.ThumbnailLocks

namespace HomeCortex
namespace Media

namespace State

variable {Id : Type} [DecidableEq Id]

section Conditions

variable (s : State Id)

/-- The item whose source is read is indexed, or its thumbnail is about to be removed. -/
def readsIndexed (id : Id) : Bool :=
  (s.sources.lookup id).isNone || (s.indexed id).isSome || s.refresh.awaits id

/-- Every version of the item that was read for a thumbnail not yet in place is current. -/
def unlinksCurrent (id : Id) : Bool :=
  s.calls.entries.all fun entry =>
    decide (entry.2.id ≠ id) || entry.2.phase.picture?.all (s.current id)

/-- A step that does not disturb a generation: no lock is made for an item that requests still
contend for, no source is read for an item that has left the index, and the refresh removes no
thumbnail while an older version waits to be put in place. -/
def undisturbed : Action Id → Bool
  | .call n raises =>
      match s.calls.lookup n with
      | some ⟨id, .enter⟩ => s.entersAlone id
      | some ⟨id, .read _⟩ => raises || s.readsIndexed id
      | _ => true
  | .refresh _ => s.refresh.unlinks?.all s.unlinksCurrent
  | .arrive .. | .change .. => true

/-- All steps of a run are undisturbed. -/
def orderly (s : State Id) : List (Action Id) → Bool
  | [] => true
  | action :: actions => s.undisturbed action && (s.step action).all fun next => next.orderly actions

end Conditions

variable {s : State Id}

theorem current_of_unlinksCurrent {id : Id} (h : s.unlinksCurrent id = true) {n : Nat}
    {call : Call Id} (hcall : s.calls.lookup n = some call) (hid : call.id = id)
    {picture : Version} (hpicture : call.phase.picture? = some picture) :
    s.current id picture = true := by
  have hentry := List.all_eq_true.1 h _ (AList.lookup_eq_some_iff.1 hcall)
  rw [Bool.or_eq_true, decide_eq_true_eq, hpicture] at hentry
  exact hentry.resolve_left fun hne => hne hid

/-! ### The invariant -/

variable (s) in
/-- A picture may be the thumbnail of an item. -/
def Fresh (id : Id) (picture : Version) : Prop :=
  s.refresh.awaits id = true ∨ s.current id picture = true

theorem fresh_congr {s' : State Id} (hindexed : ∀ id, s'.indexed id = s.indexed id)
    (hrefresh : s'.refresh = s.refresh) (id : Id) (picture : Version) :
    s'.Fresh id picture ↔ s.Fresh id picture := by
  unfold Fresh current
  rw [hrefresh, hindexed]

variable (s) in
/-- What the index records is no newer than the source, and what has been read for a thumbnail
is fresh. -/
structure Files : Prop where
  sources : ∀ id version, s.sources.lookup id = some version → version.stamp < s.clock
  indexed : ∀ id version, s.indexed id = some version → version.stamp < s.clock ∧
    ∀ source, s.sources.lookup id = some source → version.stamp ≤ source.stamp
  stored : ∀ existing todo present id version, s.refresh = .store existing todo present id version →
    version.stamp < s.clock ∧
      ∀ source, s.sources.lookup id = some source → version.stamp ≤ source.stamp
  pictures : ∀ n call picture, s.calls.lookup n = some call →
    call.phase.picture? = some picture → s.Fresh call.id picture
  temporary : ∀ n call lock picture, s.calls.lookup n = some call →
    call.phase = .swap lock picture → s.temporaries call.id = some picture
  thumbnails : ∀ id picture, s.thumbnails id = some picture → s.Fresh id picture

theorem files_start : (start : State Id).Files where
  sources _ _ h := by cases h
  indexed _ _ h := by cases h
  stored _ _ _ _ _ h := by cases h
  pictures _ _ _ h := by cases h
  temporary _ _ _ _ h := by cases h
  thumbnails _ _ h := by cases h

/-- **A step of a request**: the index, the sources and the refresh stay; a new thumbnail is
fresh, and so is what the request has read; the other requests keep their temporary files. -/
theorem Files.call (h : s.Files) {s' : State Id} (n : Nat) (hclock : s'.clock = s.clock)
    (hsources : s'.sources = s.sources) (hindexed : ∀ id, s'.indexed id = s.indexed id)
    (hrefresh : s'.refresh = s.refresh)
    (hthumbnails : ∀ id picture, s'.thumbnails id = some picture →
      s.thumbnails id = some picture ∨ s.Fresh id picture)
    (hothers : ∀ m call, m ≠ n → s'.calls.lookup m = some call → s.calls.lookup m = some call ∧
      ∀ lock picture, call.phase = .swap lock picture →
        s'.temporaries call.id = s.temporaries call.id)
    (hself : ∀ call, s'.calls.lookup n = some call →
      (∀ picture, call.phase.picture? = some picture → s.Fresh call.id picture) ∧
      ∀ lock picture, call.phase = .swap lock picture → s'.temporaries call.id = some picture) :
    s'.Files where
  sources := by rw [hclock, hsources]; exact h.sources
  indexed id version := by rw [hclock, hsources, hindexed]; exact h.indexed id version
  stored := by rw [hclock, hsources, hrefresh]; exact h.stored
  pictures m call picture hcall hpicture := by
    rw [fresh_congr hindexed hrefresh]
    by_cases hm : m = n
    · subst hm
      exact (hself call hcall).1 picture hpicture
    · exact h.pictures m call picture (hothers m call hm hcall).1 hpicture
  temporary m call lock picture hcall hphase := by
    by_cases hm : m = n
    · subst hm
      exact (hself call hcall).2 lock picture hphase
    · obtain ⟨hold, hsame⟩ := hothers m call hm hcall
      rw [hsame lock picture hphase]
      exact h.temporary m call lock picture hold hphase
  thumbnails id picture hthumbnail := by
    rw [fresh_congr hindexed hrefresh]
    exact (hthumbnails id picture hthumbnail).elim (h.thumbnails id picture) fun hfresh => hfresh

theorem indexed_setThumbnailStatus (id : Id) (status : ThumbnailStatus) (other : Id) :
    (s.setThumbnailStatus id status).indexed other = s.indexed other := by
  unfold setThumbnailStatus indexed
  split
  case h_1 row hrow =>
    by_cases hid : other = id
    · subst hid
      rw [AList.lookup_insert, hrow]
      rfl
    · rw [AList.lookup_insert_ne hid]
  case h_2 => rfl

/-- A step of a request that touches no file. -/
theorem Files.goto (h : s.Files) {n : Nat} {id : Id} {phase : Phase}
    (hpicture : ∀ picture, phase.picture? = some picture → s.Fresh id picture)
    (hswap : ∀ lock picture, phase = .swap lock picture → s.temporaries id = some picture) :
    (s.goto n id phase).Files := by
  refine Files.call h n rfl rfl (fun _ => rfl) rfl (fun _ _ hthumbnail => .inl hthumbnail)
    (fun m call hm hcall => ?_) fun call hcall => ?_
  · obtain ⟨hmn, -⟩ | ⟨-, hcall⟩ := lookup_goto hcall
    · exact absurd hmn hm
    · exact ⟨hcall, fun _ _ _ => rfl⟩
  · obtain ⟨-, rfl⟩ | ⟨hne, -⟩ := lookup_goto hcall
    · exact ⟨hpicture, hswap⟩
    · exact absurd rfl hne

/-- The end of a request touches no file. -/
theorem Files.finish (h : s.Files) {n : Nat} : (s.finish n).Files := by
  refine Files.call h n rfl rfl (fun _ => rfl) rfl (fun _ _ hthumbnail => .inl hthumbnail)
    (fun m call hm hcall => ⟨(lookup_finish hcall).2, fun _ _ _ => rfl⟩) fun call hcall => ?_
  exact absurd rfl (lookup_finish hcall).1

/-- A step that changes nothing that the invariant is about. -/
theorem Files.same (h : s.Files) {s' : State Id} (hclock : s'.clock = s.clock)
    (hsources : s'.sources = s.sources) (hindexed : ∀ id, s'.indexed id = s.indexed id)
    (hthumbnails : s'.thumbnails = s.thumbnails) (htemporaries : s'.temporaries = s.temporaries)
    (hcalls : s'.calls = s.calls) (hrefresh : s'.refresh = s.refresh) : s'.Files where
  sources := by rw [hclock, hsources]; exact h.sources
  indexed id version := by rw [hclock, hsources, hindexed]; exact h.indexed id version
  stored := by rw [hclock, hsources, hrefresh]; exact h.stored
  pictures n call picture hcall hpicture := by
    rw [fresh_congr hindexed hrefresh]
    exact h.pictures n call picture (hcalls ▸ hcall) hpicture
  temporary n call lock picture hcall hphase := by
    rw [htemporaries]
    exact h.temporary n call lock picture (hcalls ▸ hcall) hphase
  thumbnails id picture hthumbnail := by
    rw [fresh_congr hindexed hrefresh]
    exact h.thumbnails id picture (hthumbnails ▸ hthumbnail)

theorem Files.setThumbnailStatus (h : s.Files) {id : Id} {status : ThumbnailStatus} :
    (s.setThumbnailStatus id status).Files := by
  have hfields : (s.setThumbnailStatus id status).clock = s.clock ∧
      (s.setThumbnailStatus id status).sources = s.sources ∧
      (s.setThumbnailStatus id status).thumbnails = s.thumbnails ∧
      (s.setThumbnailStatus id status).temporaries = s.temporaries ∧
      (s.setThumbnailStatus id status).calls = s.calls ∧
      (s.setThumbnailStatus id status).refresh = s.refresh := by
    unfold State.setThumbnailStatus
    split
    · exact ⟨rfl, rfl, rfl, rfl, rfl, rfl⟩
    · exact ⟨rfl, rfl, rfl, rfl, rfl, rfl⟩
  obtain ⟨hclock, hsources, hthumbnails, htemporaries, hcalls, hrefresh⟩ := hfields
  exact h.same hclock hsources (indexed_setThumbnailStatus id status) hthumbnails htemporaries
    hcalls hrefresh

/-- A generation writes its temporary file, which no other one uses. -/
theorem Files.setTemporary (h : s.Files) (hlocking : s.Locking) {n : Nat} {call : Call Id}
    (hcall : s.calls.lookup n = some call) (hgenerates : call.phase.generates = true)
    {content : Option Version} {phase : Phase}
    (hpicture : ∀ picture, phase.picture? = some picture → s.Fresh call.id picture)
    (hswap : ∀ lock picture, phase = .swap lock picture → content = some picture) :
    ((s.setTemporary call.id content).goto n call.id phase).Files := by
  refine Files.call h n rfl rfl (fun _ => rfl) rfl (fun _ _ hthumbnail => .inl hthumbnail)
    (fun m other hm hother => ?_) fun other hother => ?_
  · obtain ⟨hmn, -⟩ | ⟨-, hother⟩ := lookup_goto hother
    · exact absurd hmn hm
    · refine ⟨hother, fun lock picture hphase => Function.update_of_ne (fun hid => hm ?_) _ _⟩
      exact hlocking.noOverlap m n other call hother hcall hid (by rw [hphase]; rfl) hgenerates
  · obtain ⟨-, rfl⟩ | ⟨hne, -⟩ := lookup_goto hother
    · refine ⟨hpicture, fun lock picture hphase => ?_⟩
      change Function.update s.temporaries call.id content call.id = some picture
      rw [Function.update_self]
      exact hswap lock picture hphase
    · exact absurd rfl hne

/-- A picture that is fresh becomes the thumbnail. -/
theorem Files.setThumbnail (h : s.Files) {id : Id} {picture : Version}
    (hfresh : s.Fresh id picture) : (s.setThumbnail id (some picture)).Files where
  sources := h.sources
  indexed := h.indexed
  stored := h.stored
  pictures := h.pictures
  temporary := h.temporary
  thumbnails other shown hshown := by
    change Function.update s.thumbnails id (some picture) other = some shown at hshown
    rw [Function.update_apply] at hshown
    split at hshown
    case isTrue hid =>
      obtain rfl := Option.some.inj hshown
      exact hid ▸ hfresh
    case isFalse => exact h.thumbnails other shown hshown

/-- A source that is read is at least as new as what the index records. -/
theorem Files.fresh_source (h : s.Files) {id : Id} {picture : Version}
    (hsource : s.sources.lookup id = some picture) (hreads : s.readsIndexed id = true) :
    s.Fresh id picture := by
  rw [readsIndexed, hsource, Option.isNone_some, Bool.false_or, Bool.or_eq_true] at hreads
  rcases hreads with hindexed | hawaits
  · obtain ⟨version, hversion⟩ := Option.isSome_iff_exists.1 hindexed
    refine .inr ?_
    rw [current, hversion]
    exact decide_eq_true ((h.indexed id version hversion).2 picture hsource)
  · exact .inl hawaits

/-- **The steps of a request keep the files in order.** -/
theorem Files.callStep (h : s.Files) (hlocking : s.Locking) {n : Nat} {raises : Bool}
    {call : Call Id} {s' : State Id} (hcall : s.calls.lookup n = some call)
    (hstep : s.callStep n raises call.id call.phase = some s')
    (hreads : ∀ lock, call.phase = .read lock → raises = true ∨ s.readsIndexed call.id = true) :
    s'.Files := by
  have hplain : ∀ {phase : Phase}, phase.picture? = none → ∀ picture,
      phase.picture? = some picture → s.Fresh call.id picture := by
    intro phase hnone picture hpicture
    rw [hnone] at hpicture
    cases hpicture
  have hstill : ∀ {phase : Phase} {content : Option Version}, phase.picture? = none →
      ∀ lock picture, phase = .swap lock picture → content = some picture := by
    rintro phase content hnone lock picture rfl
    cases hnone
  cases hphase : call.phase with
  | lookup =>
      rw [hphase] at hstep
      obtain rfl := Option.some.inj hstep
      split
      · exact h.goto (hplain rfl) (hstill rfl)
      · exact h.finish
  | test =>
      rw [hphase] at hstep
      obtain rfl := Option.some.inj hstep
      split
      · exact h.finish
      · exact h.goto (hplain rfl) (hstill rfl)
  | enter =>
      rw [hphase] at hstep
      obtain rfl := Option.some.inj hstep
      have hmade : (s.setdefaultLock call.id).2.Files := by
        unfold setdefaultLock
        split
        · exact h
        · exact h.same rfl rfl (fun _ => rfl) rfl rfl rfl rfl
      exact hmade.goto (fun picture hpicture => by cases hpicture) fun _ _ hswap => by cases hswap
  | wait lock =>
      rw [hphase, State.callStep] at hstep
      split at hstep
      · cases hstep
      · obtain rfl := Option.some.inj hstep
        have hheld : ({ s with held := Function.update s.held lock true } : State Id).Files :=
          h.same rfl rfl (fun _ => rfl) rfl rfl rfl rfl
        exact hheld.goto (fun picture hpicture => by cases hpicture) fun _ _ hswap => by cases hswap
  | retest lock =>
      rw [hphase] at hstep
      obtain rfl := Option.some.inj hstep
      split
      · exact h.goto (hplain rfl) (hstill rfl)
      · exact h.goto (hplain rfl) (hstill rfl)
  | clean lock =>
      rw [hphase] at hstep
      obtain rfl := Option.some.inj hstep
      exact h.setTemporary hlocking hcall (by rw [hphase]; rfl) (hplain rfl) (hstill rfl)
  | read lock =>
      rw [hphase, State.callStep] at hstep
      split at hstep
      case h_1 =>
        obtain rfl := Option.some.inj hstep
        exact h.goto (hplain rfl) (hstill rfl)
      case h_2 picture hsource =>
        obtain rfl := Option.some.inj hstep
        cases raises with
        | true => exact h.goto (hplain rfl) (hstill rfl)
        | false =>
            refine h.goto (fun shown hshown => ?_) fun _ _ hswap => by cases hswap
            obtain rfl := Option.some.inj hshown
            exact h.fresh_source hsource ((hreads lock hphase).resolve_left (by decide))
  | write lock picture =>
      rw [hphase] at hstep
      obtain rfl := Option.some.inj hstep
      have hfresh : s.Fresh call.id picture := h.pictures n call picture hcall (by rw [hphase]; rfl)
      refine h.setTemporary hlocking hcall (by rw [hphase]; rfl) (fun shown hshown => ?_)
        fun _ shown hswap => ?_
      · cases raises with
        | true => cases hshown
        | false =>
            obtain rfl := Option.some.inj hshown
            exact hfresh
      · cases raises with
        | true => cases hswap
        | false =>
            cases hswap
            rfl
  | swap lock picture =>
      rw [hphase, State.callStep] at hstep
      split at hstep
      case h_1 =>
        obtain rfl := Option.some.inj hstep
        exact h.goto (hplain rfl) (hstill rfl)
      case h_2 shown hshown =>
        split at hstep
        case isTrue =>
          obtain rfl := Option.some.inj hstep
          exact h.goto (hplain rfl) (hstill rfl)
        case isFalse =>
          obtain rfl := Option.some.inj hstep
          -- the temporary file is still the one that this request has written
          have htemporary := h.temporary n call lock picture hcall hphase
          rw [hshown] at htemporary
          obtain rfl := Option.some.inj htemporary
          have hput := h.setThumbnail (h.pictures n call shown hcall (by rw [hphase]; rfl))
          exact hput.setTemporary (hlocking.same rfl rfl rfl) hcall (by rw [hphase]; rfl)
            (fun _ hpicture => by cases hpicture) fun _ _ hswap => by cases hswap
  | ready lock =>
      rw [hphase, State.callStep] at hstep
      split at hstep
      · obtain rfl := Option.some.inj hstep
        exact h.goto (hplain rfl) (hstill rfl)
      · obtain rfl := Option.some.inj hstep
        exact (h.setThumbnailStatus).goto (fun _ hpicture => by cases hpicture)
          fun _ _ hswap => by cases hswap
  | undo lock =>
      rw [hphase] at hstep
      obtain rfl := Option.some.inj hstep
      exact h.setTemporary hlocking hcall (by rw [hphase]; rfl) (hplain rfl) (hstill rfl)
  | mark lock =>
      rw [hphase] at hstep
      obtain rfl := Option.some.inj hstep
      cases raises with
      | true => exact h.goto (hplain rfl) (hstill rfl)
      | false =>
          exact (h.setThumbnailStatus).goto (fun _ hpicture => by cases hpicture)
            fun _ _ hswap => by cases hswap
  | discard lock =>
      rw [hphase] at hstep
      obtain rfl := Option.some.inj hstep
      have hpopped : (s.popLock call.id).Files := h.same rfl rfl (fun _ => rfl) rfl rfl rfl rfl
      exact hpopped.goto (fun _ hpicture => by cases hpicture) fun _ _ hswap => by cases hswap
  | leave lock =>
      rw [hphase] at hstep
      obtain rfl := Option.some.inj hstep
      have hheld : ({ s with held := Function.update s.held lock false } : State Id).Files :=
        h.same rfl rfl (fun _ => rfl) rfl rfl rfl rfl
      exact hheld.finish

/-! ### Steps of the refresh -/

/-- The refresh goes on without touching a file or the index. -/
theorem Files.refresh (h : s.Files) {refresh : Refresh Id}
    (hawaits : ∀ id, s.refresh.awaits id = true → refresh.awaits id = true)
    (hstored : ∀ existing todo present id version,
      refresh = .store existing todo present id version →
        s.sources.lookup id = some version) :
    ({ s with refresh := refresh } : State Id).Files where
  sources := h.sources
  indexed := h.indexed
  stored existing todo present id version hstore := by
    have hsource := hstored existing todo present id version hstore
    refine ⟨h.sources id version hsource, fun source hother => ?_⟩
    obtain rfl := Option.some.inj (hsource.symm.trans hother)
    exact le_rfl
  pictures n call picture hcall hpicture :=
    (h.pictures n call picture hcall hpicture).imp_left (hawaits call.id)
  temporary := h.temporary
  thumbnails id picture hthumbnail := (h.thumbnails id picture hthumbnail).imp_left (hawaits id)

/-- The refresh removes a thumbnail; what is still to be put in place is current. -/
theorem Files.unlink (h : s.Files) {id : Id} {refresh : Refresh Id}
    (hcurrent : s.unlinksCurrent id = true)
    (hawaits : ∀ other, s.refresh.awaits other = true → other ≠ id → refresh.awaits other = true)
    (hstored : ∀ existing todo present other version,
      refresh ≠ .store existing todo present other version) :
    ({ s.setThumbnail id none with refresh := refresh } : State Id).Files where
  sources := h.sources
  indexed := h.indexed
  stored existing todo present other version hstore :=
    absurd hstore (hstored existing todo present other version)
  pictures n call picture hcall hpicture := by
    by_cases hid : call.id = id
    · exact .inr (hid ▸ current_of_unlinksCurrent hcurrent hcall hid hpicture)
    · exact (h.pictures n call picture hcall hpicture).imp_left fun ha => hawaits call.id ha hid
  temporary := h.temporary
  thumbnails other picture hthumbnail := by
    change Function.update s.thumbnails id none other = some picture at hthumbnail
    rw [Function.update_apply] at hthumbnail
    split at hthumbnail
    case isTrue => cases hthumbnail
    case isFalse hid =>
      exact (h.thumbnails other picture hthumbnail).imp_left fun ha => hawaits other ha hid

/-- The index changes the rows of items whose thumbnails the refresh removes next. -/
theorem Files.rows (h : s.Files) {rows : Table Id Row} {refresh : Refresh Id}
    (hindexed : ∀ id version, (rows.lookup id).map Row.version = some version →
      version.stamp < s.clock ∧
        ∀ source, s.sources.lookup id = some source → version.stamp ≤ source.stamp)
    (hawaits : ∀ id, refresh.awaits id = true ∨
      (s.refresh.awaits id = false ∧ (rows.lookup id).map Row.version = s.indexed id))
    (hstored : ∀ existing todo present id version,
      refresh ≠ .store existing todo present id version) :
    ({ s with rows := rows, refresh := refresh } : State Id).Files := by
  have hfresh : ∀ id picture, s.Fresh id picture →
      ({ s with rows := rows, refresh := refresh } : State Id).Fresh id picture := by
    intro id picture hfresh
    rcases hawaits id with hnew | ⟨hold, hsame⟩
    · exact .inl hnew
    · rcases hfresh with hawait | hcurrent
      · rw [hold] at hawait
        cases hawait
      · refine .inr ?_
        change ((rows.lookup id).map Row.version).any _ = true
        rw [hsame]
        exact hcurrent
  exact {
    sources := h.sources
    indexed := hindexed
    stored := fun existing todo present id version hstore =>
      absurd hstore (hstored existing todo present id version)
    pictures := fun n call picture hcall hpicture =>
      hfresh _ _ (h.pictures n call picture hcall hpicture)
    temporary := h.temporary
    thumbnails := fun id picture hthumbnail => hfresh _ _ (h.thumbnails id picture hthumbnail) }

/-- **The steps of the refresh keep the files in order.** -/
theorem Files.refreshStep (h : s.Files) {paths : List Id} {s' : State Id}
    (hstep : s.refreshStep paths s.refresh = some s')
    (hcurrent : s.refresh.unlinks?.all s.unlinksCurrent = true) : s'.Files := by
  cases hrefresh : s.refresh with
  | idle =>
      rw [hrefresh] at hstep
      obtain rfl := Option.some.inj hstep
      exact h.refresh (fun id ha => by rw [hrefresh] at ha; cases ha) fun _ _ _ _ _ hs => by cases hs
  | list existing =>
      rw [hrefresh, State.refreshStep] at hstep
      split at hstep
      · obtain rfl := Option.some.inj hstep
        exact h.refresh (fun id ha => by rw [hrefresh] at ha; cases ha)
          fun _ _ _ _ _ hs => by cases hs
      · cases hstep
  | scan existing todo present =>
      have hawaits : ∀ {refresh : Refresh Id} id, s.refresh.awaits id = true →
          refresh.awaits id = true := by
        intro refresh id ha
        rw [hrefresh] at ha
        cases ha
      cases todo with
      | nil =>
          rw [hrefresh] at hstep
          obtain rfl := Option.some.inj hstep
          exact h.refresh hawaits fun _ _ _ _ _ hs => by cases hs
      | cons id todo =>
          rw [hrefresh, State.refreshStep] at hstep
          split at hstep
          case h_1 =>
            obtain rfl := Option.some.inj hstep
            exact h.refresh hawaits fun _ _ _ _ _ hs => by cases hs
          case h_2 version hsource =>
            split at hstep
            · obtain rfl := Option.some.inj hstep
              exact h.refresh hawaits fun _ _ _ _ _ hs => by cases hs
            · obtain rfl := Option.some.inj hstep
              refine h.refresh hawaits fun _ _ _ _ _ hs => ?_
              cases hs
              exact hsource
  | store existing todo present id version =>
      rw [hrefresh] at hstep
      obtain rfl := Option.some.inj hstep
      have hlookup : ∀ other,
          ((s.rows.insert id ⟨version, .missing⟩).lookup other).map Row.version =
            if other = id then some version else s.indexed other := by
        intro other
        split
        case isTrue hid =>
          rw [hid, AList.lookup_insert]
          rfl
        case isFalse hid =>
          rw [AList.lookup_insert_ne hid]
          rfl
      refine h.rows (fun other found hfound => ?_) (fun other => ?_) fun _ _ _ _ _ hs => by cases hs
      · rw [hlookup] at hfound
        split at hfound
        case isTrue hid =>
          obtain rfl := Option.some.inj hfound
          exact hid ▸ h.stored existing todo present id version hrefresh
        case isFalse => exact h.indexed other found hfound
      · by_cases hid : other = id
        · exact .inl (beq_iff_eq.2 hid.symm)
        · exact .inr ⟨by rw [hrefresh]; rfl, by rw [hlookup, if_neg hid]⟩
  | drop existing todo present id =>
      rw [hrefresh] at hstep hcurrent
      obtain rfl := Option.some.inj hstep
      refine h.unlink hcurrent (fun other ha hne => ?_) fun _ _ _ _ _ hs => by cases hs
      rw [hrefresh] at ha
      exact absurd (beq_iff_eq.1 ha).symm hne
  | missing present =>
      have hawaits : ∀ {refresh : Refresh Id} id, s.refresh.awaits id = true →
          refresh.awaits id = true := by
        intro refresh id ha
        rw [hrefresh] at ha
        cases ha
      rw [hrefresh, State.refreshStep] at hstep
      split at hstep
      all_goals
        obtain rfl := Option.some.inj hstep
        exact h.refresh hawaits fun _ _ _ _ _ hs => by cases hs
  | delete removed =>
      rw [hrefresh] at hstep
      obtain rfl := Option.some.inj hstep
      refine h.rows (fun id version hversion => ?_) (fun id => ?_) fun _ _ _ _ _ hs => by cases hs
      · obtain ⟨row, hrow, rfl⟩ := Option.map_eq_some_iff.1 hversion
        refine h.indexed id row.version ?_
        rw [State.indexed, (AList.lookup_deleteWhere_eq_some.1 hrow).1]
        rfl
      · cases hremoved : removed.contains id with
        | true => exact .inl hremoved
        | false =>
            refine .inr ⟨by rw [hrefresh]; rfl, ?_⟩
            rw [AList.lookup_deleteWhere_of_keep fun _ _ => hremoved]
            rfl
  | purge removed =>
      cases removed with
      | nil =>
          rw [hrefresh] at hstep
          obtain rfl := Option.some.inj hstep
          exact h.refresh (fun id ha => by rw [hrefresh] at ha; cases ha)
            fun _ _ _ _ _ hs => by cases hs
      | cons id removed =>
          rw [hrefresh] at hstep hcurrent
          obtain rfl := Option.some.inj hstep
          refine h.unlink hcurrent (fun other ha hne => ?_) fun _ _ _ _ _ hs => by cases hs
          rw [hrefresh] at ha
          change (id :: removed).contains other = true at ha
          change removed.contains other = true
          rw [List.contains_iff_mem] at ha ⊢
          exact (List.mem_cons.1 ha).resolve_left hne

/-- A source changes or disappears; what is indexed or about to be is older. -/
theorem Files.change (h : s.Files) {sources : Table Id Version}
    (hsources : ∀ id source, sources.lookup id = some source →
      s.sources.lookup id = some source ∨ source.stamp = s.clock) :
    ({ s with sources := sources, clock := s.clock + 1 } : State Id).Files where
  sources id source hsource := by
    rcases hsources id source hsource with hold | hnew
    · exact (h.sources id source hold).trans (Nat.lt_succ_self _)
    · exact Nat.lt_succ_of_le hnew.le
  indexed id version hversion := by
    obtain ⟨hclock, hsource⟩ := h.indexed id version hversion
    refine ⟨hclock.trans (Nat.lt_succ_self _), fun source hfound => ?_⟩
    exact (hsources id source hfound).elim (hsource source) fun hnew => hnew ▸ hclock.le
  stored existing todo present id version hstore := by
    obtain ⟨hclock, hsource⟩ := h.stored existing todo present id version hstore
    refine ⟨hclock.trans (Nat.lt_succ_self _), fun source hfound => ?_⟩
    exact (hsources id source hfound).elim (hsource source) fun hnew => hnew ▸ hclock.le
  pictures := h.pictures
  temporary := h.temporary
  thumbnails := h.thumbnails

/-! ### Runs -/

/-- An undisturbed step keeps the locks and the files in order. -/
theorem ordered_step {action : Action Id} {s' : State Id} (hlocking : s.Locking) (hfiles : s.Files)
    (hstep : s.step action = some s') (hundisturbed : s.undisturbed action = true) :
    s'.Locking ∧ s'.Files := by
  cases action with
  | arrive n id =>
      rw [step] at hstep
      split at hstep
      · cases hstep
      · obtain rfl := Option.some.inj hstep
        exact ⟨hlocking.arrive, hfiles.goto (fun _ hpicture => by cases hpicture)
          fun _ _ hswap => by cases hswap⟩
  | call n raises =>
      rw [step] at hstep
      split at hstep
      case h_1 => cases hstep
      case h_2 call hcall =>
        rw [undisturbed, hcall] at hundisturbed
        refine ⟨hlocking.callStep hcall hstep fun hphase => ?_,
          hfiles.callStep hlocking hcall hstep fun lock hphase => ?_⟩
        · obtain ⟨id, phase⟩ := call
          obtain rfl : phase = .enter := hphase
          exact hundisturbed
        · obtain ⟨id, phase⟩ := call
          obtain rfl : phase = .read lock := hphase
          exact Bool.or_eq_true_iff.1 hundisturbed
  | change id content =>
      have hlocking' : ∀ sources, ({ s with sources := sources, clock := s.clock + 1 }
          : State Id).Locking := fun sources => hlocking.same rfl rfl rfl
      cases content with
      | none =>
          obtain rfl := Option.some.inj hstep
          refine ⟨hlocking' _, hfiles.change fun other source hsource => ?_⟩
          by_cases hid : other = id
          · subst hid
            rw [AList.lookup_erase] at hsource
            cases hsource
          · rw [AList.lookup_erase_ne hid] at hsource
            exact .inl hsource
      | some content =>
          obtain rfl := Option.some.inj hstep
          refine ⟨hlocking' _, hfiles.change fun other source hsource => ?_⟩
          by_cases hid : other = id
          · subst hid
            rw [AList.lookup_insert] at hsource
            obtain rfl := Option.some.inj hsource
            exact .inr rfl
          · rw [AList.lookup_insert_ne hid] at hsource
            exact .inl hsource
  | refresh paths =>
      obtain ⟨hcalls, hlocks, hheld, -⟩ := refreshStep_requests hstep
      exact ⟨hlocking.same hcalls hlocks hheld, hfiles.refreshStep hstep hundisturbed⟩

theorem ordered_run {actions : List (Action Id)} : ∀ {s s' : State Id}, s.Locking → s.Files →
    s.run actions = some s' → s.orderly actions = true → s'.Locking ∧ s'.Files := by
  induction actions with
  | nil =>
      intro s s' hlocking hfiles hrun _
      obtain rfl := Option.some.inj hrun
      exact ⟨hlocking, hfiles⟩
  | cons action actions ih =>
      intro s s' hlocking hfiles hrun horderly
      obtain ⟨next, hstep, hrun⟩ := Option.bind_eq_some_iff.1 hrun
      rw [orderly, hstep, Option.all_some, Bool.and_eq_true] at horderly
      obtain ⟨hlocking, hfiles⟩ := ordered_step hlocking hfiles hstep horderly.1
      exact ih hlocking hfiles hrun horderly.2

/-- **In a run of undisturbed steps the cache stays coherent**, and no two generations of one
item overlap. -/
theorem runs_coherent {actions : List (Action Id)} {s : State Id}
    (hrun : start.run actions = some s) (horderly : start.orderly actions = true) :
    s.NoOverlap ∧ s.Coherent := by
  obtain ⟨hlocking, hfiles⟩ := ordered_run locking_start files_start hrun horderly
  exact ⟨hlocking.noOverlap, hfiles.thumbnails⟩

/-! ### Three runs -/

/-- No request and no refresh is running. -/
def quiet (s : State Id) : Bool :=
  s.calls.entries.isEmpty && match s.refresh with
    | .idle => true
    | _ => false

/-- Steps of a request without a failure. -/
def steps (n count : Nat) : List (Action String) := List.replicate count (.call n false)

/-- A refresh that finds a new version of the only file. -/
def refreshing : List (Action String) :=
  [.refresh [], .refresh ["media_a"], .refresh [], .refresh [], .refresh [], .refresh [],
    .refresh []]

/-- A photo is indexed. -/
def indexing : List (Action String) := .change "media_a" (some (10, 1)) :: refreshing

/-- A thumbnail is made, and asked for again. -/
def servedRun : List (Action String) :=
  indexing ++ .arrive 0 "media_a" :: steps 0 12 ++ .arrive 1 "media_a" :: steps 1 2

theorem runs_coherent_served : ∃ s, start.run servedRun = some s ∧ s.NoOverlap ∧ s.Coherent := by
  obtain ⟨s, hs⟩ := Option.isSome_iff_exists.1
    (show (start.run servedRun).isSome = true by decide +kernel)
  exact ⟨s, hs, runs_coherent hs (by decide +kernel)⟩

/-- The photo changes and is indexed again while its thumbnail is being made. -/
def staleRun : List (Action String) :=
  indexing ++ .arrive 0 "media_a" :: steps 0 7 ++
    .change "media_a" (some (20, 2)) :: refreshing ++ steps 0 5

/-- A first request fails and discards the lock that a second one waits for; a third one makes
another lock. -/
def overlappingRun : List (Action String) :=
  indexing ++ [.arrive 0 "media_a", .arrive 1 "media_a", .arrive 2 "media_a"] ++ steps 0 4 ++
    steps 1 3 ++ steps 0 2 ++ .call 0 true :: steps 0 4 ++ steps 2 5 ++ steps 1 2

/-- **Neither holds of every run**: after `staleRun` nothing is running, and
the thumbnail is older than the index; in `overlappingRun` two generations of the photo are
about to use the same temporary file. -/
theorem thumbnail_races :
    (∃ s, start.run staleRun = some s ∧ s.quiet = true ∧ ¬s.Coherent) ∧
      ∃ s, start.run overlappingRun = some s ∧ ¬s.NoOverlap := by
  have hstale : (start.run staleRun).any (fun s => s.quiet &&
      (s.thumbnails "media_a").any fun picture =>
        !s.refresh.awaits "media_a" && !s.current "media_a" picture) = true := by decide +kernel
  have hoverlap : (start.run overlappingRun).any (fun s =>
      decide (s.calls.lookup 1 = some ⟨"media_a", .clean 0⟩ ∧
        s.calls.lookup 2 = some ⟨"media_a", .clean 1⟩)) = true := by decide +kernel
  constructor
  · obtain ⟨s, hs, hfacts⟩ := (Option.any_eq_true ..).1 hstale
    rw [Bool.and_eq_true] at hfacts
    obtain ⟨hquiet, hthumbnail⟩ := hfacts
    refine ⟨s, hs, hquiet, fun hcoherent => ?_⟩
    cases hpicture : s.thumbnails "media_a" with
    | none =>
        rw [hpicture] at hthumbnail
        cases hthumbnail
    | some picture =>
        rw [hpicture, Option.any_some, Bool.and_eq_true, Bool.not_eq_true', Bool.not_eq_true']
          at hthumbnail
        rcases hcoherent "media_a" picture hpicture with hawaits | hcurrent
        · rw [hthumbnail.1] at hawaits
          cases hawaits
        · rw [hthumbnail.2] at hcurrent
          cases hcurrent
  · obtain ⟨s, hs, hfacts⟩ := (Option.any_eq_true ..).1 hoverlap
    obtain ⟨hfirst, hsecond⟩ := of_decide_eq_true hfacts
    refine ⟨s, hs, fun hno => ?_⟩
    have heq := hno 1 2 _ _ hfirst hsecond rfl rfl rfl
    cases heq

end State

end Media
end HomeCortex
