/-
# The locks of the thumbnail cache

A lock is made by the first request for an item and dropped from the dictionary by whoever
finishes a generation, while others may still wait for it.  A request that comes then makes
another lock.  As long as that does not happen (`entersAlone`), all requests that contend for
an item have the same lock, so that its generations do not overlap (`Locking.noOverlap`).
-/

import HomeCortex.Media.Thumbnails

namespace HomeCortex
namespace Media

namespace State

variable {Id : Type} {s : State Id} {n : Nat} {id : Id} {phase : Phase}

/-! ### Requests after a step -/

theorem lookup_goto {m : Nat} {call : Call Id}
    (h : (s.goto n id phase).calls.lookup m = some call) :
    m = n ∧ call = ⟨id, phase⟩ ∨ m ≠ n ∧ s.calls.lookup m = some call := by
  change (s.calls.insert n ⟨id, phase⟩).lookup m = some call at h
  by_cases hm : m = n
  · subst hm
    rw [AList.lookup_insert] at h
    exact .inl ⟨rfl, (Option.some.inj h).symm⟩
  · rw [AList.lookup_insert_ne hm] at h
    exact .inr ⟨hm, h⟩

theorem lookup_finish {m : Nat} {call : Call Id}
    (h : (s.finish n).calls.lookup m = some call) : m ≠ n ∧ s.calls.lookup m = some call := by
  change (s.calls.erase n).lookup m = some call at h
  by_cases hm : m = n
  · subst hm
    rw [AList.lookup_erase] at h
    cases h
  · rw [AList.lookup_erase_ne hm] at h
    exact ⟨hm, h⟩

/-! ### The invariant -/

variable (s) in
/-- The requests that contend for an item share a lock, which is the item's if it has one; and
a lock is held by one request. -/
structure Locking : Prop where
  shared : ∀ m n call other lock lock', s.calls.lookup m = some call →
    s.calls.lookup n = some other → call.id = other.id → call.phase.contended? = some lock →
    other.phase.contended? = some lock' → lock = lock'
  entry : ∀ n call lock lock', s.calls.lookup n = some call → call.phase.contended? = some lock →
    s.locks call.id = some lock' → lock = lock'
  held : ∀ n call lock, s.calls.lookup n = some call → call.phase.holding? = some lock →
    s.held lock = true
  alone : ∀ m n call other lock, s.calls.lookup m = some call → s.calls.lookup n = some other →
    call.phase.holding? = some lock → other.phase.holding? = some lock → m = n

/-- **The generations of an item do not overlap.** -/
theorem Locking.noOverlap (h : s.Locking) : s.NoOverlap := by
  intro m n call other hcall hother hid hgenerates hgenerates'
  obtain ⟨lock, hcontended, hholding⟩ := Phase.locks_of_generates hgenerates
  obtain ⟨lock', hcontended', hholding'⟩ := Phase.locks_of_generates hgenerates'
  obtain rfl := h.shared m n call other lock lock' hcall hother hid hcontended hcontended'
  exact h.alone m n call other lock hcall hother hholding hholding'

theorem locking_start : (start : State Id).Locking where
  shared _ _ _ _ _ _ h := by cases h
  entry _ _ _ _ h := by cases h
  held _ _ _ h := by cases h
  alone _ _ _ _ _ h := by cases h

/-- A step after which a request holds what it held, and contends for no other lock. -/
theorem Locking.move (h : s.Locking) {s' : State Id} {call : Call Id}
    (hcall : s.calls.lookup n = some call)
    (hcontended : phase.contended? = call.phase.contended? ∨ phase.contended? = none)
    (hholding : phase.holding? = call.phase.holding?)
    (hcalls : s'.calls = (s.goto n call.id phase).calls)
    (hlocks : ∀ id lock, s'.locks id = some lock → s.locks id = some lock)
    (hheld : s'.held = s.held) : s'.Locking := by
  have hback : ∀ m other, s'.calls.lookup m = some other →
      ∃ old, s.calls.lookup m = some old ∧ other.id = old.id ∧
        (∀ lock, other.phase.contended? = some lock → old.phase.contended? = some lock) ∧
        other.phase.holding? = old.phase.holding? := by
    intro m other hother
    rw [hcalls] at hother
    rcases lookup_goto hother with ⟨rfl, rfl⟩ | ⟨-, hother⟩
    · refine ⟨call, hcall, rfl, fun lock hlock => ?_, hholding⟩
      rcases hcontended with hsame | hnone
      · rw [← hsame]
        exact hlock
      · rw [hnone] at hlock
        cases hlock
    · exact ⟨other, hother, rfl, fun _ hlock => hlock, rfl⟩
  constructor
  · intro m k other other' lock lock' hother hother' hid hlock hlock'
    obtain ⟨old, hold, hsame, hcont, -⟩ := hback m other hother
    obtain ⟨old', hold', hsame', hcont', -⟩ := hback k other' hother'
    exact h.shared m k old old' lock lock' hold hold' (by rw [← hsame, hid, hsame'])
      (hcont lock hlock) (hcont' lock' hlock')
  · intro m other lock lock' hother hlock hentry
    obtain ⟨old, hold, hsame, hcont, -⟩ := hback m other hother
    exact h.entry m old lock lock' hold (hcont lock hlock) (hsame ▸ hlocks _ _ hentry)
  · intro m other lock hother hlock
    obtain ⟨old, hold, -, -, hhold⟩ := hback m other hother
    rw [hheld]
    exact h.held m old lock hold (hhold ▸ hlock)
  · intro m k other other' lock hother hother' hlock hlock'
    obtain ⟨old, hold, -, -, hhold⟩ := hback m other hother
    obtain ⟨old', hold', -, -, hhold'⟩ := hback k other' hother'
    exact h.alone m k old old' lock hold hold' (hhold ▸ hlock) (hhold' ▸ hlock')

/-- A request that holds no lock ends. -/
theorem Locking.finish (h : s.Locking) : (s.finish n).Locking where
  shared m k call other lock lock' hcall hother := h.shared m k call other lock lock'
    (lookup_finish hcall).2 (lookup_finish hother).2
  entry m call lock lock' hcall := h.entry m call lock lock' (lookup_finish hcall).2
  held m call lock hcall := h.held m call lock (lookup_finish hcall).2
  alone m k call other lock hcall hother := h.alone m k call other lock (lookup_finish hcall).2
    (lookup_finish hother).2

/-- A step that leaves the requests and the locks alone. -/
theorem Locking.same (h : s.Locking) {s' : State Id} (hcalls : s'.calls = s.calls)
    (hlocks : s'.locks = s.locks) (hheld : s'.held = s.held) : s'.Locking where
  shared := by rw [hcalls]; exact h.shared
  entry := by rw [hcalls, hlocks]; exact h.entry
  held := by rw [hcalls, hheld]; exact h.held
  alone := by rw [hcalls]; exact h.alone

/-- A request arrives. -/
theorem Locking.arrive (h : s.Locking) : (s.goto n id .lookup).Locking := by
  have hback : ∀ {m call}, (s.goto n id .lookup).calls.lookup m = some call →
      (call.phase.contended?.isSome ∨ call.phase.holding?.isSome) →
      s.calls.lookup m = some call := by
    intro m call hcall hlock
    rcases lookup_goto hcall with ⟨rfl, rfl⟩ | ⟨-, hcall⟩
    · rcases hlock with hlock | hlock <;> cases hlock
    · exact hcall
  have hsome : ∀ {o : Option Nat} {lock}, o = some lock → o.isSome = true := by
    rintro o lock rfl
    rfl
  exact {
    shared := fun m k call other lock lock' hcall hother hid hlock hlock' =>
      h.shared m k call other lock lock' (hback hcall (.inl (hsome hlock)))
        (hback hother (.inl (hsome hlock'))) hid hlock hlock'
    entry := fun m call lock lock' hcall hlock =>
      h.entry m call lock lock' (hback hcall (.inl (hsome hlock))) hlock
    held := fun m call lock hcall hlock =>
      h.held m call lock (hback hcall (.inr (hsome hlock))) hlock
    alone := fun m k call other lock hcall hother hlock hlock' =>
      h.alone m k call other lock (hback hcall (.inr (hsome hlock)))
        (hback hother (.inr (hsome hlock'))) hlock hlock' }

/-- A request takes its lock, which is free. -/
theorem Locking.acquire (h : s.Locking) {call : Call Id} {lock : Nat}
    (hcall : s.calls.lookup n = some call) (hphase : call.phase = .wait lock)
    (hfree : s.held lock = false) :
    ({ s with held := Function.update s.held lock true }.goto n call.id (.retest lock)).Locking := by
  have hback : ∀ {m other}, (s.goto n call.id (.retest lock)).calls.lookup m = some other →
      ∃ old, s.calls.lookup m = some old ∧ other.id = old.id ∧
        other.phase.contended? = old.phase.contended? ∧
        (m = n ∧ other.phase.holding? = some lock ∨
          m ≠ n ∧ other.phase.holding? = old.phase.holding?) := by
    intro m other hother
    rcases lookup_goto hother with ⟨rfl, rfl⟩ | ⟨hm, hother⟩
    · exact ⟨call, hcall, rfl, by rw [hphase]; rfl, .inl ⟨rfl, rfl⟩⟩
    · exact ⟨other, hother, rfl, rfl, .inr ⟨hm, rfl⟩⟩
  -- no one held the lock before
  have hother : ∀ {m other}, s.calls.lookup m = some other → other.phase.holding? ≠ some lock := by
    intro m other hlookup hholding
    have hheld := h.held m other lock hlookup hholding
    rw [hfree] at hheld
    cases hheld
  constructor
  · intro m k one two old old' hone htwo hid hlock hlock'
    obtain ⟨first, hfirst, hfirstId, hfirstLock, -⟩ := hback hone
    obtain ⟨second, hsecond, hsecondId, hsecondLock, -⟩ := hback htwo
    exact h.shared m k first second old old' hfirst hsecond (by rw [← hfirstId, hid, hsecondId])
      (hfirstLock ▸ hlock) (hsecondLock ▸ hlock')
  · intro m one old old' hone hlock hentry
    obtain ⟨first, hfirst, hfirstId, hfirstLock, -⟩ := hback hone
    exact h.entry m first old old' hfirst (hfirstLock ▸ hlock) (hfirstId ▸ hentry)
  · intro m one old hone hlock
    change Function.update s.held lock true old = true
    rw [Function.update_apply]
    split
    case isTrue => rfl
    case isFalse hne =>
      obtain ⟨first, hfirst, -, -, ⟨-, hnew⟩ | ⟨-, hsame⟩⟩ := hback hone
      · exact absurd (Option.some.inj (hlock.symm.trans hnew)) hne
      · exact h.held m first old hfirst (hsame ▸ hlock)
  · intro m k one two old hone htwo hlock hlock'
    obtain ⟨first, hfirst, -, -, ⟨rfl, hnew⟩ | ⟨hm, hsame⟩⟩ := hback hone
    · obtain rfl := Option.some.inj (hlock.symm.trans hnew)
      obtain ⟨second, hsecond, -, -, ⟨rfl, -⟩ | ⟨-, hsame'⟩⟩ := hback htwo
      · rfl
      · exact absurd (hsame' ▸ hlock') (hother hsecond)
    · obtain ⟨second, hsecond, -, -, ⟨rfl, hnew'⟩ | ⟨-, hsame'⟩⟩ := hback htwo
      · obtain rfl := Option.some.inj (hlock'.symm.trans hnew')
        exact absurd (hsame ▸ hlock) (hother hfirst)
      · exact h.alone m k first second old hfirst hsecond (hsame ▸ hlock) (hsame' ▸ hlock')

/-- A request that holds a lock releases it and ends. -/
theorem Locking.release (h : s.Locking) {call : Call Id} {lock : Nat}
    (hcall : s.calls.lookup n = some call) (hholding : call.phase.holding? = some lock) :
    ({ s with held := Function.update s.held lock false }.finish n).Locking where
  shared m k one two old old' hone htwo := h.shared m k one two old old' (lookup_finish hone).2
    (lookup_finish htwo).2
  entry m one old old' hone := h.entry m one old old' (lookup_finish hone).2
  held m one old hone hold := by
    obtain ⟨hm, hone⟩ := lookup_finish hone
    change Function.update s.held lock false old = true
    rw [Function.update_apply]
    split
    case isTrue heq =>
      subst heq
      exact absurd (h.alone m n one call old hone hcall hold hholding) hm
    case isFalse => exact h.held m one old hone hold
  alone m k one two old hone htwo := h.alone m k one two old (lookup_finish hone).2
    (lookup_finish htwo).2

/-! ### Making a lock -/

variable [DecidableEq Id]

variable (s) in
/-- Some request waits for a lock of the item, or holds one that is not discarded. -/
def contends (id : Id) : Bool :=
  s.calls.entries.any fun entry =>
    decide (entry.2.id = id) && entry.2.phase.contended?.isSome

variable (s) in
/-- The item has a lock, or no request contends for it. -/
def entersAlone (id : Id) : Bool := (s.locks id).isSome || !s.contends id

theorem contends_eq_false (h : s.contends id = false) {call : Call Id}
    (hcall : s.calls.lookup n = some call) (hid : call.id = id) :
    call.phase.contended? = none := by
  have hentry := List.any_eq_false.1 h _ (AList.lookup_eq_some_iff.1 hcall)
  rw [Bool.and_eq_true, decide_eq_true_eq, not_and] at hentry
  exact Option.not_isSome_iff_eq_none.1 (hentry hid)

/-- A request is given the lock of its item; if it makes the lock, no other one contends. -/
theorem Locking.enter (h : s.Locking) (halone : s.entersAlone id = true) :
    ((s.setdefaultLock id).2.goto n id (.wait (s.setdefaultLock id).1)).Locking := by
  obtain ⟨lock, hlock⟩ : ∃ lock, (s.setdefaultLock id).1 = lock := ⟨_, rfl⟩
  have hcalls : (s.setdefaultLock id).2.calls = s.calls := by
    unfold setdefaultLock
    split <;> rfl
  have hheld : (s.setdefaultLock id).2.held = s.held := by
    unfold setdefaultLock
    split <;> rfl
  have hlocks : ∀ other, (s.setdefaultLock id).2.locks other
      = if other = id then some lock else s.locks other := by
    intro other
    subst hlock
    unfold setdefaultLock
    split
    case h_1 lock hentry =>
      split
      case isTrue hid => rw [hid, hentry]
      case isFalse => rfl
    case h_2 => exact Function.update_apply ..
  -- whoever contends for the item has this lock
  have hshared : ∀ m call old, s.calls.lookup m = some call → call.id = id →
      call.phase.contended? = some old → old = lock := by
    intro m call old hcall hid hold
    subst hlock
    unfold setdefaultLock
    split
    case h_1 lock hentry => exact h.entry m call old lock hcall hold (hid ▸ hentry)
    case h_2 hentry =>
      rw [entersAlone, hentry, Option.isSome_none, Bool.false_or, Bool.not_eq_true'] at halone
      rw [contends_eq_false halone hcall hid] at hold
      cases hold
  rw [hlock]
  have hback : ∀ {m call}, ((s.setdefaultLock id).2.goto n id (.wait lock)).calls.lookup m
      = some call → m = n ∧ call = ⟨id, .wait lock⟩ ∨ s.calls.lookup m = some call := by
    intro m call hcall
    rcases lookup_goto hcall with hnew | ⟨-, hcall⟩
    · exact .inl hnew
    · exact .inr (hcalls ▸ hcall)
  have hlockOf : ∀ {m call old}, ((s.setdefaultLock id).2.goto n id (.wait lock)).calls.lookup m
      = some call → call.id = id → call.phase.contended? = some old → old = lock := by
    intro m call old hcall hid hold
    rcases hback hcall with ⟨-, rfl⟩ | hcall
    · exact (Option.some.inj hold).symm
    · exact hshared m call old hcall hid hold
  constructor
  · intro m k call other old old' hcall hother hid hold hold'
    by_cases hcallId : call.id = id
    · rw [hlockOf hcall hcallId hold, hlockOf hother (hid ▸ hcallId) hold']
    · rcases hback hcall with ⟨-, rfl⟩ | hcall
      · exact absurd rfl hcallId
      rcases hback hother with ⟨-, rfl⟩ | hother
      · exact absurd hid hcallId
      exact h.shared m k call other old old' hcall hother hid hold hold'
  · intro m call old old' hcall hold hentry
    change (s.setdefaultLock id).2.locks call.id = some old' at hentry
    rw [hlocks] at hentry
    by_cases hcallId : call.id = id
    · rw [if_pos hcallId] at hentry
      rw [hlockOf hcall hcallId hold]
      exact Option.some.inj hentry
    · rw [if_neg hcallId] at hentry
      rcases hback hcall with ⟨-, rfl⟩ | hcall
      · exact absurd rfl hcallId
      exact h.entry m call old old' hcall hold hentry
  · intro m call old hcall hold
    change (s.setdefaultLock id).2.held old = true
    rw [hheld]
    rcases hback hcall with ⟨-, rfl⟩ | hcall
    · cases hold
    · exact h.held m call old hcall hold
  · intro m k call other old hcall hother hold hold'
    rcases hback hcall with ⟨-, rfl⟩ | hcall
    · cases hold
    rcases hback hother with ⟨-, rfl⟩ | hother
    · cases hold'
    exact h.alone m k call other old hcall hother hold hold'

/-! ### Steps -/

@[simp] theorem calls_setThumbnailStatus (status : ThumbnailStatus) :
    (s.setThumbnailStatus id status).calls = s.calls := by
  unfold setThumbnailStatus
  split <;> rfl

@[simp] theorem locks_setThumbnailStatus (status : ThumbnailStatus) :
    (s.setThumbnailStatus id status).locks = s.locks := by
  unfold setThumbnailStatus
  split <;> rfl

@[simp] theorem held_setThumbnailStatus (status : ThumbnailStatus) :
    (s.setThumbnailStatus id status).held = s.held := by
  unfold setThumbnailStatus
  split <;> rfl

/-- The same, with a new status of the item's thumbnail. -/
theorem Locking.move_status (h : s.Locking) {call : Call Id} {status : ThumbnailStatus}
    (hcall : s.calls.lookup n = some call)
    (hcontended : phase.contended? = call.phase.contended? ∨ phase.contended? = none)
    (hholding : phase.holding? = call.phase.holding?) :
    ((s.setThumbnailStatus call.id status).goto n call.id phase).Locking := by
  refine h.move hcall hcontended hholding ?_ (fun id lock hentry => ?_)
    (held_setThumbnailStatus status)
  · change (s.setThumbnailStatus call.id status).calls.insert _ _ = s.calls.insert _ _
    rw [calls_setThumbnailStatus]
  · change (s.setThumbnailStatus call.id status).locks id = _ at hentry
    rwa [locks_setThumbnailStatus] at hentry

theorem Locking.callStep (h : s.Locking) {raises : Bool} {call : Call Id} {s' : State Id}
    (hcall : s.calls.lookup n = some call)
    (hstep : s.callStep n raises call.id call.phase = some s')
    (halone : call.phase = .enter → s.entersAlone call.id = true) : s'.Locking := by
  cases hphase : call.phase with
  | lookup =>
      rw [hphase] at hstep
      obtain rfl := Option.some.inj hstep
      split
      · exact h.move hcall (.inr rfl) (by rw [hphase]; rfl) rfl (fun _ _ h => h) rfl
      · exact h.finish
  | test =>
      rw [hphase] at hstep
      obtain rfl := Option.some.inj hstep
      split
      · exact h.finish
      · exact h.move hcall (.inr rfl) (by rw [hphase]; rfl) rfl (fun _ _ h => h) rfl
  | enter =>
      rw [hphase] at hstep
      obtain rfl := Option.some.inj hstep
      exact h.enter (halone hphase)
  | wait lock =>
      rw [hphase, State.callStep] at hstep
      split at hstep
      case isTrue => cases hstep
      case isFalse hfree =>
        obtain rfl := Option.some.inj hstep
        exact h.acquire hcall hphase (Bool.eq_false_iff.2 hfree)
  | retest lock =>
      rw [hphase] at hstep
      obtain rfl := Option.some.inj hstep
      split
      · exact h.move hcall (.inr rfl) (by rw [hphase]; rfl) rfl (fun _ _ h => h) rfl
      · exact h.move hcall (.inl (by rw [hphase]; rfl)) (by rw [hphase]; rfl) rfl
          (fun _ _ h => h) rfl
  | clean lock =>
      rw [hphase] at hstep
      obtain rfl := Option.some.inj hstep
      exact h.move hcall (.inl (by rw [hphase]; rfl)) (by rw [hphase]; rfl) rfl
        (fun _ _ h => h) rfl
  | read lock =>
      rw [hphase, State.callStep] at hstep
      split at hstep
      · obtain rfl := Option.some.inj hstep
        exact h.move hcall (.inl (by rw [hphase]; rfl)) (by rw [hphase]; rfl) rfl
          (fun _ _ h => h) rfl
      · obtain rfl := Option.some.inj hstep
        refine h.move hcall (.inl ?_) ?_ rfl (fun _ _ h => h) rfl
        · rw [hphase]
          cases raises <;> rfl
        · rw [hphase]
          cases raises <;> rfl
  | write lock picture =>
      rw [hphase] at hstep
      obtain rfl := Option.some.inj hstep
      refine h.move hcall (.inl ?_) ?_ rfl (fun _ _ h => h) rfl
      · rw [hphase]
        cases raises <;> rfl
      · rw [hphase]
        cases raises <;> rfl
  | swap lock picture =>
      rw [hphase, State.callStep] at hstep
      split at hstep
      · obtain rfl := Option.some.inj hstep
        exact h.move hcall (.inl (by rw [hphase]; rfl)) (by rw [hphase]; rfl) rfl
          (fun _ _ h => h) rfl
      · split at hstep
        all_goals
          obtain rfl := Option.some.inj hstep
          exact h.move hcall (.inl (by rw [hphase]; rfl)) (by rw [hphase]; rfl) rfl
            (fun _ _ h => h) rfl
  | ready lock =>
      rw [hphase, State.callStep] at hstep
      split at hstep
      · obtain rfl := Option.some.inj hstep
        exact h.move hcall (.inl (by rw [hphase]; rfl)) (by rw [hphase]; rfl) rfl
          (fun _ _ h => h) rfl
      · obtain rfl := Option.some.inj hstep
        exact h.move_status hcall (.inl (by rw [hphase]; rfl)) (by rw [hphase]; rfl)
  | undo lock =>
      rw [hphase] at hstep
      obtain rfl := Option.some.inj hstep
      exact h.move hcall (.inl (by rw [hphase]; rfl)) (by rw [hphase]; rfl) rfl
        (fun _ _ h => h) rfl
  | mark lock =>
      rw [hphase] at hstep
      obtain rfl := Option.some.inj hstep
      cases raises with
      | true =>
          exact h.move hcall (.inl (by rw [hphase]; rfl)) (by rw [hphase]; rfl) rfl
            (fun _ _ h => h) rfl
      | false =>
          exact h.move_status hcall (.inl (by rw [hphase]; rfl)) (by rw [hphase]; rfl)
  | discard lock =>
      rw [hphase] at hstep
      obtain rfl := Option.some.inj hstep
      refine h.move hcall (.inr rfl) (by rw [hphase]; rfl) rfl (fun id lock hentry => ?_) rfl
      change Function.update s.locks call.id none id = some lock at hentry
      rw [Function.update_apply] at hentry
      split at hentry
      case isTrue => cases hentry
      case isFalse => exact hentry
  | leave lock =>
      rw [hphase] at hstep
      obtain rfl := Option.some.inj hstep
      exact h.release hcall (by rw [hphase]; rfl)

/-- The refresh takes no part in the locks. -/
theorem refreshStep_requests {paths : List Id} {refresh : Refresh Id} {s' : State Id}
    (h : s.refreshStep paths refresh = some s') :
    s'.calls = s.calls ∧ s'.locks = s.locks ∧ s'.held = s.held ∧
      s'.temporaries = s.temporaries ∧ s'.sources = s.sources ∧ s'.clock = s.clock := by
  unfold refreshStep at h
  split at h
  case h_2 =>
    split at h
    · obtain rfl := Option.some.inj h
      exact ⟨rfl, rfl, rfl, rfl, rfl, rfl⟩
    · cases h
  case h_4 =>
    split at h
    · obtain rfl := Option.some.inj h
      exact ⟨rfl, rfl, rfl, rfl, rfl, rfl⟩
    · split at h
      all_goals
        obtain rfl := Option.some.inj h
        exact ⟨rfl, rfl, rfl, rfl, rfl, rfl⟩
  case h_7 =>
    dsimp only at h
    split at h
    all_goals
      obtain rfl := Option.some.inj h
      exact ⟨rfl, rfl, rfl, rfl, rfl, rfl⟩
  all_goals
    obtain rfl := Option.some.inj h
    exact ⟨rfl, rfl, rfl, rfl, rfl, rfl⟩

end State

end Media
end HomeCortex
