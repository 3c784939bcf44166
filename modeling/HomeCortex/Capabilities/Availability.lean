/-
# When a window is free

What a read of Google's pages has seen is a `Run`: the pages that were answered one after
another, each asked for by the token of the one before, the first by none.  The batch holds the
events of these pages and is complete exactly when the last of them names no further page; no
token is followed twice (`readPages_run`).  A listing merges the batches of the calendars that
the caller may read (`Gathered`), and a window is available only when every one of them was read
to its last page and none of their events is busy (`available_free`).
-/

import HomeCortex.Capabilities.Calendar
import HomeCortex.Library.Checked

namespace HomeCortex
namespace Calendar

/-! ### The pages of a calendar -/

section Pages

variable (zones : Zones) (default_timezone : String) (limit : Nat)

/-- The events of a page. -/
def pageEvents (page : Fields) : Except Raised (List ProviderEvent) :=
  ((pageItems page).mapM (itemEvent zones default_timezone)).map List.reduceOption

/-- A page holds no more items than were asked for. -/
def Answer.Honours (answer : Answer) : Prop :=
  ∀ request page, answer request = some page → (pageItems page).length ≤ request.maxResults

/-- The pages answered one after another, the first to the token `token`; after each of them
the reader may have stopped. -/
inductive Run : List Answer → Option String → List Fields → Prop
  | stopped {answers : List Answer} {token : Option String} : Run answers token []
  | last {answer : Answer} {answers : List Answer} {token : Option String} {room : Nat}
      {page : Fields} (h : answer ⟨room, token⟩ = some page) (hlast : nextPageToken page = none) :
      Run (answer :: answers) token [page]
  | more {answer : Answer} {answers : List Answer} {token : Option String} {room : Nat}
      {page : Fields} {next : String} {pages : List Fields}
      (h : answer ⟨room, token⟩ = some page) (hnext : nextPageToken page = some next)
      (rest : Run answers (some next) pages) :
      Run (answer :: answers) token (page :: pages)

/-- There is no page after the last of these. -/
def Exhausted (pages : List Fields) : Prop :=
  ∃ page ∈ pages.getLast?, nextPageToken page = none

theorem exhausted_singleton {page : Fields} : Exhausted [page] ↔ nextPageToken page = none := by
  simp [Exhausted]

theorem not_exhausted_nil : ¬ Exhausted [] := by
  simp [Exhausted]

theorem exhausted_cons {page : Fields} {pages : List Fields} {next : String}
    (h : nextPageToken page = some next) : Exhausted (page :: pages) ↔ Exhausted pages := by
  cases pages with
  | nil => simp [Exhausted, h]
  | cons p ps => simp [Exhausted, List.getLast?_cons_cons]

variable {zones default_timezone limit}

/-- **A page with room for its items is taken whole.** -/
theorem takeItems_eq_ok {events read : List ProviderEvent} {items : List Json}
    (hroom : events.length + items.length ≤ limit)
    (h : takeItems zones default_timezone limit events items = .ok read) :
    ∃ found, items.mapM (itemEvent zones default_timezone) = .ok found ∧
      read = events ++ found.reduceOption := by
  induction items generalizing events with
  | nil =>
      cases Except.ok.inj h
      exact ⟨[], rfl, by simp⟩
  | cons item items ih =>
      rw [takeItems, Except.bind_eq_ok] at h
      obtain ⟨event?, hevent, h⟩ := h
      rw [List.length_cons] at hroom
      cases event? with
      | none =>
          obtain ⟨found, hfound, rfl⟩ := ih (by omega) h
          exact ⟨none :: found, Except.mapM_cons_eq_ok.2 ⟨_, _, hevent, hfound, rfl⟩, rfl⟩
      | some event =>
          have hlength : (events ++ [event]).length = events.length + 1 := by simp
          by_cases hfull : limit ≤ (events ++ [event]).length
          · -- The limit is met by the last item of the page.
            have hitems : items = [] := List.eq_nil_of_length_eq_zero (by omega)
            simp only [if_pos hfull, Except.pure_eq_ok] at h
            subst hitems h
            exact ⟨[some event], Except.mapM_cons_eq_ok.2 ⟨_, _, hevent, rfl, rfl⟩, rfl⟩
          · simp only [if_neg hfull] at h
            obtain ⟨found, hfound, rfl⟩ := ih (by omega) h
            refine ⟨some event :: found, Except.mapM_cons_eq_ok.2 ⟨_, _, hevent, hfound, rfl⟩, ?_⟩
            rw [List.reduceOption_cons_of_some, List.append_assoc, List.singleton_append]

theorem pageEvents_of_takeItems {events read : List ProviderEvent} {page : Fields}
    (hroom : events.length + (pageItems page).length ≤ limit)
    (h : takeItems zones default_timezone limit events (pageItems page) = .ok read) :
    ∃ found, pageEvents zones default_timezone page = .ok found ∧ read = events ++ found ∧
      read.length ≤ limit := by
  obtain ⟨found, hfound, rfl⟩ := takeItems_eq_ok hroom h
  refine ⟨_, Except.map_eq_ok.2 ⟨found, hfound, rfl⟩, rfl, ?_⟩
  have hlength := (Except.mapM_eq_ok.1 hfound).length_eq
  have hkept := found.reduceOption_length_le
  rw [List.length_append]
  omega

/-- What a read has seen when it ends in `batch`, after the events `events` and with the tokens
`seen` behind it. -/
structure Seen (zones : Zones) (default_timezone : String) (limit : Nat)
    (events : List ProviderEvent) (token : Option String) (seen : List String)
    (answers : List Answer) (batch : ProviderEventBatch) (pages : List Fields) : Prop where
  run : Run answers token pages
  bounded : batch.events.length ≤ limit
  events_eq : ∃ found, pages.mapM (pageEvents zones default_timezone) = .ok found ∧
    batch.events = events ++ found.flatten
  complete_iff : batch.complete = true ↔ Exhausted pages
  fresh : ∀ next ∈ pages.filterMap nextPageToken, next ∉ seen
  nodup : (pages.filterMap nextPageToken).Nodup

theorem Seen.stopped {events : List ProviderEvent} {token : Option String} {seen : List String}
    {answers : List Answer} (h : events.length ≤ limit) :
    Seen zones default_timezone limit events token seen answers ⟨events, false⟩ [] where
  run := .stopped
  bounded := h
  events_eq := ⟨[], rfl, by simp⟩
  complete_iff := iff_of_false Bool.false_ne_true not_exhausted_nil
  fresh := by simp
  nodup := by simp

/-- One more page, whose events are `found`. -/
theorem Seen.cons {events found : List ProviderEvent} {token : Option String} {seen : List String}
    {answer : Answer} {answers : List Answer} {batch : ProviderEventBatch} {page : Fields}
    {pages : List Fields} {room : Nat} {next : String}
    (h : answer ⟨room, token⟩ = some page) (hnext : nextPageToken page = some next)
    (hfound : pageEvents zones default_timezone page = .ok found) (hseen : next ∉ seen)
    (hrest : Seen zones default_timezone limit (events ++ found) (some next) (next :: seen) answers
      batch pages) :
    Seen zones default_timezone limit events token seen (answer :: answers) batch
      (page :: pages) where
  run := .more h hnext hrest.run
  bounded := hrest.bounded
  events_eq := by
    obtain ⟨rest, hpages, hevents⟩ := hrest.events_eq
    exact ⟨found :: rest, Except.mapM_cons_eq_ok.2 ⟨_, _, hfound, hpages, rfl⟩, by
      rw [hevents, List.flatten_cons, List.append_assoc]⟩
  complete_iff := hrest.complete_iff.trans (exhausted_cons hnext).symm
  fresh := by
    intro t ht
    rw [List.filterMap_cons_some hnext] at ht
    rcases List.mem_cons.1 ht with rfl | ht
    · exact hseen
    · exact fun hmem => hrest.fresh t ht (List.mem_cons_of_mem _ hmem)
  nodup := by
    rw [List.filterMap_cons_some hnext]
    exact List.nodup_cons.2 ⟨fun hmem => hrest.fresh next hmem List.mem_cons_self, hrest.nodup⟩

/-- **A read of pages** has seen a run of them: its batch is their events, complete exactly when
no page follows, and no token is followed twice. -/
theorem readPages_run {events : List ProviderEvent} {token : Option String} {seen : List String}
    {answers : List Answer} {batch : ProviderEventBatch}
    (honours : ∀ answer ∈ answers, answer.Honours) (hroom : events.length < limit)
    (h : readPages zones default_timezone limit events token seen answers = .ok batch) :
    ∃ pages, Seen zones default_timezone limit events token seen answers batch pages := by
  induction answers generalizing events token seen with
  | nil =>
      rw [readPages, decide_eq_false (by omega)] at h
      cases Except.ok.inj h
      exact ⟨[], Seen.stopped hroom.le⟩
  | cons answer answers ih =>
      rw [readPages, if_neg (by omega)] at h
      cases hanswer : answer ⟨limit - events.length, token⟩ with
      | none =>
          rw [hanswer] at h
          by_cases hempty : events.isEmpty = true
          · simp [hempty] at h
          · simp only [hempty, Bool.false_eq_true, if_false] at h
            cases Except.ok.inj h
            exact ⟨[], Seen.stopped hroom.le⟩
      | some page =>
          simp only [hanswer, Except.bind_eq_ok] at h
          obtain ⟨read, hread, h⟩ := h
          have hitems := honours answer List.mem_cons_self _ _ hanswer
          have hmax : PageRequest.maxResults ⟨limit - events.length, token⟩
              ≤ limit - events.length := by
            rw [PageRequest.maxResults]
            exact (min_le_left _ _).trans_eq (max_eq_left (show 1 ≤ limit - events.length by omega))
          obtain ⟨found, hfound, rfl, hbound⟩ := pageEvents_of_takeItems
            (by omega : events.length + (pageItems page).length ≤ limit) hread
          cases hnext : nextPageToken page with
          | none =>
              simp only [hnext, Except.pure_eq_ok] at h
              subst h
              refine ⟨[page], .last hanswer hnext, hbound, ⟨[found], ?_, by simp⟩,
                iff_of_true rfl (exhausted_singleton.2 hnext), by simp [hnext], by simp [hnext]⟩
              exact Except.mapM_cons_eq_ok.2 ⟨_, _, hfound, rfl, rfl⟩
          | some next =>
              rw [hnext] at h
              dsimp only at h
              by_cases hseen : next ∈ seen
              · simp [hseen] at h
              · rw [if_neg hseen] at h
                by_cases hfull : limit ≤ (events ++ found).length
                · simp only [if_pos hfull, Except.pure_eq_ok] at h
                  subst h
                  exact ⟨[page], Seen.cons hanswer hnext hfound hseen (Seen.stopped hbound)⟩
                · rw [if_neg hfull] at h
                  obtain ⟨pages, hpages⟩ := ih
                    (fun answer hmem => honours answer (List.mem_cons_of_mem _ hmem))
                    (by omega) h
                  exact ⟨page :: pages, Seen.cons hanswer hnext hfound hseen hpages⟩

end Pages

/-! ### A calendar of two pages -/

/-- A zone database that knows `UTC`. -/
def utcZones : Zones := fun key => if key = "UTC" then .ok Zone.utc else .error .zoneNotFound

/-- A free hour. -/
def gymItem : Json :=
  .obj [("id", .str "gym"), ("transparency", .str "transparent"),
    ("start", .obj [("dateTime", .str "2026-01-02T10:00:00Z")]),
    ("end", .obj [("dateTime", .str "2026-01-02T11:00:00Z")])]

/-- One page with an event, and an empty one after it. -/
def familyLog : List Answer :=
  [fun _ => some [("items", .arr [gymItem]), ("nextPageToken", .str "more")], fun _ => some []]

theorem familyLog_honours : ∀ answer ∈ familyLog, answer.Honours := by
  intro answer hanswer request page hpage
  have hmax : 1 ≤ request.maxResults := by
    rw [PageRequest.maxResults]
    exact le_min (le_max_right _ _) (by decide)
  have hlength : (pageItems page).length ≤ 1 := by
    rcases List.mem_cons.1 hanswer with rfl | hanswer
    · cases Option.some.inj hpage
      decide
    · obtain rfl := List.mem_singleton.1 hanswer
      cases Option.some.inj hpage
      decide
  exact hlength.trans hmax

section Loading

variable {service : CalendarService} {provider : Provider} {selection : Selection}
  {window : Aware × Aware} {limit : Nat}

/-- The bindings that the caller may read among those that the request names. -/
def CalendarService.selected (service : CalendarService) (caller : String)
    (selection : Selection) : List CalendarBinding :=
  (service.bindings.filter (·.readableBy caller)).filter selection.admits

theorem CalendarService.mem_selected {caller : String} {binding : CalendarBinding} :
    binding ∈ service.selected caller selection ↔
      binding ∈ service.bindings ∧ binding.readableBy caller = true ∧
        selection.admits binding = true := by
  rw [selected, List.mem_filter, List.mem_filter, and_assoc]

theorem authorizedCalendars_eq_ok {caller_entity_id : Option String}
    {bindings : List CalendarBinding} :
    service.authorizedCalendars caller_entity_id selection = .ok bindings ↔
      ∃ caller, caller_entity_id = some caller ∧ bindings = service.selected caller selection ∧
        bindings ≠ [] := by
  cases caller_entity_id with
  | none => simp [CalendarService.authorizedCalendars]
  | some caller =>
      simp only [CalendarService.authorizedCalendars, Option.some.injEq, exists_eq_left']
      change (if (service.selected caller selection).isEmpty = true then _ else _) = _ ↔ _
      by_cases hempty : service.selected caller selection = []
      · rw [if_pos (List.isEmpty_iff.2 hempty)]
        refine iff_of_false (fun h => by cases h) ?_
        rintro ⟨rfl, hne⟩
        exact hne hempty
      · rw [if_neg (mt List.isEmpty_iff.1 hempty)]
        constructor
        · intro h
          cases Except.ok.inj h
          exact ⟨rfl, hempty⟩
        · rintro ⟨rfl, -⟩
          rfl

/-- What loading a binding leaves, when nothing escapes it. -/
def loadedOf (provider : Provider) (window : Aware × Aware) (limit : Nat)
    (binding : CalendarBinding) : Loaded :=
  match provider binding window.1 window.2 limit with
  | .ok batch =>
      ⟨binding, batch.events, none, if batch.complete then none else some binding.id⟩
  | .error _ => ⟨binding, [], some binding.id, none⟩

theorem loadBinding_eq_ok {binding : CalendarBinding} {loaded : Loaded}
    (h : loadBinding provider window limit binding = .ok loaded) :
    loadedOf provider window limit binding = loaded := by
  rw [loadBinding] at h
  rw [loadedOf]
  cases hload : provider binding window.1 window.2 limit with
  | ok batch =>
      rw [hload] at h
      exact Except.ok.inj h
  | error error =>
      rw [hload] at h
      cases error with
      | unavailable message => exact Except.ok.inj h
      | timeout => exact Except.ok.inj h
      | authorization message => cases h
      | zoneNotFound => cases h
      | osError => cases h
      | python error => cases h

theorem loads_eq_ok {bindings : List CalendarBinding} {loaded : List Loaded}
    (h : bindings.mapM (loadBinding provider window limit) = .ok loaded) :
    loaded = bindings.map (loadedOf provider window limit) := by
  simpa using List.map_eq_of_forall₂ (Except.mapM_eq_ok.1 h)
    (fun binding (loaded : Loaded) hloaded =>
      show id loaded = loadedOf provider window limit binding from (loadBinding_eq_ok hloaded).symm)

/-- The events that the provider has for a binding, with their keys. -/
def keyedOf (provider : Provider) (window : Aware × Aware) (limit : Nat)
    (binding : CalendarBinding) : List Keyed :=
  match provider binding window.1 window.2 limit with
  | .ok batch => batch.events.map fun event => (event.start, cortexEvent binding event)
  | .error _ => []

theorem keyed_loadedOf (binding : CalendarBinding) :
    (loadedOf provider window limit binding).keyed = keyedOf provider window limit binding := by
  rw [loadedOf, keyedOf]
  cases provider binding window.1 window.2 limit <;> rfl

/-- The provider has the whole of a calendar. -/
def Whole (provider : Provider) (window : Aware × Aware) (limit : Nat)
    (binding : CalendarBinding) : Prop :=
  ∃ batch, provider binding window.1 window.2 limit = .ok batch ∧ batch.complete = true

theorem whole_iff {binding : CalendarBinding} : Whole provider window limit binding ↔
    (loadedOf provider window limit binding).failed_id = none ∧
      (loadedOf provider window limit binding).truncated_id = none := by
  rw [Whole, loadedOf]
  cases provider binding window.1 window.2 limit with
  | error error => simp
  | ok batch => cases h : batch.complete <;> simp [h]

theorem isEmpty_filterMap_iff {α β : Type} {f : α → Option β} {xs : List α} :
    (xs.filterMap f).isEmpty = true ↔ ∀ x ∈ xs, f x = none := by
  rw [List.isEmpty_iff, List.filterMap_eq_nil_iff]

end Loading

/-! ### A listing -/

/-- Times that are ordered like their instants: neither is repeated or skipped by its zone, and
within one zone the clocks follow the instants. -/
structure Aware.Steady (a b : Aware) : Prop where
  left : a.foldMatters = false
  right : b.foldMatters = false
  clocks : a.tzinfo.same b.tzinfo = true → (a.wall.value < b.wall.value ↔ a.instant < b.instant) ∧
    (a.wall.value = b.wall.value ↔ a.instant = b.instant)

theorem Aware.Steady.eq_lt {a b : Aware} (h : a.Steady b) :
    a.eq b = decide (a.instant = b.instant) ∧ a.lt b = decide (a.instant < b.instant) := by
  rw [Aware.eq, Aware.lt]
  by_cases hsame : a.tzinfo.same b.tzinfo = true
  · obtain ⟨hlt, heq⟩ := h.clocks hsame
    simp only [hsame, if_true, hlt]
    exact ⟨by rw [Bool.eq_iff_iff, beq_iff_eq, decide_eq_true_eq, heq], trivial⟩
  · simp only [hsame, Bool.false_eq_true, if_false, h.left, h.right, Bool.not_false, Bool.true_and]
    exact ⟨by rw [Bool.eq_iff_iff, beq_iff_eq, decide_eq_true_eq], trivial⟩

/-- Events that can be put in order: their times are steady, and no two records share their
time and id. -/
structure Orderly (events : List Keyed) : Prop where
  steady : ∀ a ∈ events, ∀ b ∈ events, a.1.Steady b.1
  records : ∀ a ∈ events, ∀ b ∈ events,
    a.1.instant = b.1.instant → a.2.id = b.2.id → a.2 = b.2

/-- The order of a listing: by the instant, then by the id. -/
def orderKey (event : Keyed) : Int ×ₗ String := toLex (event.1.instant, event.2.id)

theorem keyedLt_eq {events : List Keyed} (h : Orderly events) {a b : Keyed} (ha : a ∈ events)
    (hb : b ∈ events) : keyedLt a b = .ok (decide (orderKey a < orderKey b)) := by
  obtain ⟨heq, hlt⟩ := (h.steady a ha b hb).eq_lt
  rw [keyedLt, heq, hlt, orderKey, orderKey]
  by_cases hinstant : a.1.instant = b.1.instant
  · rw [decide_eq_true hinstant, if_pos rfl]
    by_cases hid : a.2.id = b.2.id
    · rw [if_pos hid, if_pos (h.records a ha b hb hinstant hid), hinstant, hid]
      simp
    · rw [if_neg hid, hinstant]
      simp [Prod.Lex.toLex_lt_toLex]
  · rw [decide_eq_false hinstant, if_neg Bool.false_ne_true]
    simp [Prod.Lex.toLex_lt_toLex, hinstant]

/-- What a listing of the window holds for a caller: the calendars by how they were loaded, the
first events of all of them, and whether these are all there are. -/
structure Gathered (service : CalendarService) (provider : Provider) (caller : String)
    (selection : Selection) (window : Aware × Aware) (limit : Nat) (listing : Listing) : Prop where
  authorized : service.selected caller selection ≠ []
  served : ∃ binding ∈ service.selected caller selection, ∃ batch,
    provider binding window.1 window.2 limit = .ok batch
  calendars : ∀ id, id ∈ listing.calendars ↔ ∃ binding ∈ service.selected caller selection,
    binding.id = id ∧ ∃ batch, provider binding window.1 window.2 limit = .ok batch
  unavailable_calendars : ∀ id, id ∈ listing.unavailable_calendars ↔
    ∃ binding ∈ service.selected caller selection,
      binding.id = id ∧ ¬ ∃ batch, provider binding window.1 window.2 limit = .ok batch
  truncated_calendars : ∀ id, id ∈ listing.truncated_calendars ↔
    ∃ binding ∈ service.selected caller selection,
      binding.id = id ∧ ∃ batch, provider binding window.1 window.2 limit = .ok batch ∧
        batch.complete = false
  events : ∃ merged : List Keyed,
    merged.Perm ((service.selected caller selection).flatMap (keyedOf provider window limit)) ∧
      (Orderly merged → merged.Pairwise fun a b => orderKey a ≤ orderKey b) ∧
      listing.events = (merged.take limit).map Prod.snd
  complete_iff : listing.complete = true ↔
    (∀ binding ∈ service.selected caller selection, Whole provider window limit binding) ∧
      ((service.selected caller selection).flatMap (keyedOf provider window limit)).length ≤ limit

section Listings

variable {service : CalendarService} {provider : Provider} {selection : Selection}
  {window : Aware × Aware} {limit : Nat} {caller : String}

theorem fetched_loadedOf {binding : CalendarBinding} {id : String} :
    (loadedOf provider window limit binding).fetched? = some id ↔
      binding.id = id ∧ ∃ batch, provider binding window.1 window.2 limit = .ok batch := by
  rw [loadedOf, Loaded.fetched?]
  cases provider binding window.1 window.2 limit <;> simp

theorem failed_loadedOf {binding : CalendarBinding} {id : String} :
    (loadedOf provider window limit binding).failed_id = some id ↔
      binding.id = id ∧ ¬ ∃ batch, provider binding window.1 window.2 limit = .ok batch := by
  rw [loadedOf]
  cases provider binding window.1 window.2 limit <;> simp

theorem truncated_loadedOf {binding : CalendarBinding} {id : String} :
    (loadedOf provider window limit binding).truncated_id = some id ↔
      binding.id = id ∧ ∃ batch, provider binding window.1 window.2 limit = .ok batch ∧
        batch.complete = false := by
  rw [loadedOf]
  cases provider binding window.1 window.2 limit with
  | error error => simp
  | ok batch => cases h : batch.complete <;> simp [h]

theorem mem_filterMap_loaded {bindings : List CalendarBinding} {f : Loaded → Option String}
    {id : String} : id ∈ (bindings.map (loadedOf provider window limit)).filterMap f ↔
      ∃ binding ∈ bindings, f (loadedOf provider window limit binding) = some id := by
  simp [List.mem_filterMap]

theorem assemble_gathered {listing : Listing} (hne : service.selected caller selection ≠ [])
    (h : service.assemble window limit
      ((service.selected caller selection).map (loadedOf provider window limit)) = .ok listing) :
    Gathered service provider caller selection window limit listing := by
  rw [CalendarService.assemble] at h
  dsimp only at h
  rw [ite_eq_iff] at h
  obtain ⟨-, hraised⟩ | ⟨hserved, h⟩ := h
  · cases hraised
  rw [Except.bind_eq_ok] at h
  obtain ⟨merged, hsort, h⟩ := h
  rw [Except.pure_eq_ok] at h
  subst h
  have hkeyed : ((service.selected caller selection).map
      (loadedOf provider window limit)).flatMap Loaded.keyed
      = (service.selected caller selection).flatMap (keyedOf provider window limit) := by
    rw [List.flatMap_map]
    exact congrArg (List.flatMap · _) (funext keyed_loadedOf)
  rw [hkeyed] at hsort
  have hperm := ComparisonSort.sort_perm hsort
  refine ⟨hne, ?_, fun id => mem_filterMap_loaded.trans ?_, fun id => mem_filterMap_loaded.trans ?_,
    fun id => mem_filterMap_loaded.trans ?_, ⟨merged, hperm, ?_, rfl⟩, ?_⟩
  · by_contra hnone
    refine hserved (Bool.and_eq_true_iff.2 ⟨isEmpty_filterMap_iff.2 ?_, ?_⟩)
    · intro loaded hloaded
      obtain ⟨binding, hbinding, rfl⟩ := List.mem_map.1 hloaded
      by_contra hfetched
      obtain ⟨id, hid⟩ := Option.ne_none_iff_exists'.1 hfetched
      exact hnone ⟨binding, hbinding, (fetched_loadedOf.1 hid).2⟩
    · obtain ⟨binding, hbinding⟩ := List.exists_mem_of_ne_nil _ hne
      have hfailed := failed_loadedOf.2
        ⟨rfl, fun hbatch => hnone ⟨binding, hbinding, hbatch⟩⟩
      rw [Bool.not_eq_true', ← Bool.not_eq_true, isEmpty_filterMap_iff]
      exact fun hall => by simp [hall _ (List.mem_map_of_mem hbinding)] at hfailed
  · simp only [fetched_loadedOf]
  · simp only [failed_loadedOf]
  · simp only [truncated_loadedOf]
  · intro horderly
    obtain ⟨sorted, hsorted, hpairwise⟩ := @ComparisonSort.sort_by_key _ _ keyedLt _ _ orderKey _
      fun a ha b hb => keyedLt_eq horderly (hperm.mem_iff.2 ha) (hperm.mem_iff.2 hb)
    rw [hsort] at hsorted
    exact (Except.ok.inj hsorted) ▸ hpairwise
  · rw [Bool.and_eq_true, Bool.and_eq_true, isEmpty_filterMap_iff, isEmpty_filterMap_iff,
      decide_eq_true_eq, hperm.length_eq, List.forall_mem_map, List.forall_mem_map]
    refine and_congr_left' ?_
    rw [← forall₂_and]
    exact forall₂_congr fun binding _ => whole_iff.symm

/-- A listing is for an authenticated caller and a window, and assembled from what was loaded. -/
theorem listEvents_eq_ok {start end_at : String} {limit : Option Nat}
    {caller_entity_id : Option String} {listing : Listing}
    (h : service.listEvents provider start end_at selection limit caller_entity_id = .ok listing) :
    ∃ caller window, caller_entity_id = some caller ∧
      parseWindow service.tz start end_at = .ok window ∧
      service.selected caller selection ≠ [] ∧
      service.assemble window (limit.getD DEFAULT_EVENT_LIMIT)
        ((service.selected caller selection).map
          (loadedOf provider window (limit.getD DEFAULT_EVENT_LIMIT))) = .ok listing := by
  rw [CalendarService.listEvents, Except.bind_eq_ok] at h
  obtain ⟨window, hwindow, h⟩ := h
  rw [Except.bind_eq_ok] at h
  obtain ⟨selected, hselected, h⟩ := h
  rw [Except.bind_eq_ok] at h
  obtain ⟨loaded, hloaded, h⟩ := h
  obtain ⟨caller, rfl, rfl, hne⟩ := authorizedCalendars_eq_ok.1 hselected
  rw [loads_eq_ok hloaded] at h
  exact ⟨caller, window, rfl, hwindow, hne, h⟩

/-- **What a listing lists.**  A result of `list_events` is for an authenticated caller and a
window, and holds what was gathered there. -/
theorem listEvents_gathered {start end_at : String} {limit : Option Nat}
    {caller_entity_id : Option String} {listing : Listing}
    (h : service.listEvents provider start end_at selection limit caller_entity_id = .ok listing) :
    ∃ caller window, caller_entity_id = some caller ∧
      parseWindow service.tz start end_at = .ok window ∧
      Gathered service provider caller selection window (limit.getD DEFAULT_EVENT_LIMIT)
        listing := by
  obtain ⟨caller, window, hcaller, hwindow, hne, hassemble⟩ := listEvents_eq_ok h
  exact ⟨caller, window, hcaller, hwindow, assemble_gathered hne hassemble⟩

/-- **A listing depends on what its caller may read.**  Services in the same zone whose readable
calendars are the same, and are answered the same, list the same for that caller. -/
theorem listEvents_confined {other : CalendarService} {elsewhere : Provider}
    {start end_at : String} {limit : Option Nat}
    (hzone : other.tz = service.tz) (hname : other.default_timezone = service.default_timezone)
    (hreadable : other.bindings.filter (·.readableBy caller)
      = service.bindings.filter (·.readableBy caller))
    (hanswers : ∀ binding ∈ service.bindings, binding.readableBy caller = true →
      elsewhere binding = provider binding) :
    other.listEvents elsewhere start end_at selection limit (some caller)
      = service.listEvents provider start end_at selection limit (some caller) := by
  have hauthorized : other.authorizedCalendars (some caller) selection
      = service.authorizedCalendars (some caller) selection := by
    simp only [CalendarService.authorizedCalendars, hreadable]
  have hassemble : other.assemble = service.assemble := by
    funext window event_limit loaded
    simp only [CalendarService.assemble, hname]
  rw [CalendarService.listEvents, CalendarService.listEvents, hzone, hauthorized, hassemble]
  refine bind_congr fun window => ?_
  cases hselected : service.authorizedCalendars (some caller) selection with
  | error error => rfl
  | ok selected =>
      obtain ⟨_, hcaller, rfl, -⟩ := authorizedCalendars_eq_ok.1 hselected
      cases Option.some.inj hcaller
      have hloads : (service.selected caller selection).mapM
          (loadBinding elsewhere window (limit.getD DEFAULT_EVENT_LIMIT))
          = (service.selected caller selection).mapM
            (loadBinding provider window (limit.getD DEFAULT_EVENT_LIMIT)) := by
        refine Except.mapM_congr fun binding hbinding => ?_
        obtain ⟨hmem, hreads, -⟩ := CalendarService.mem_selected.1 hbinding
        rw [loadBinding, loadBinding, hanswers binding hmem hreads]
      exact congrArg (· >>= _) hloads

end Listings

/-! ### A free window -/

section Windows

variable {service : CalendarService} {provider : Provider} {selection : Selection}
  {start end_at : String} {caller_entity_id : Option String}

/-- An event that does not occupy its time. -/
def ProviderEvent.IsFree (event : ProviderEvent) : Prop :=
  event.busy = false ∨ event.status = "cancelled"

theorem conflicts_eq_false {binding : CalendarBinding} {event : ProviderEvent} :
    (cortexEvent binding event).conflicts = false ↔ event.IsFree := by
  rw [CortexEvent.conflicts, Bool.and_eq_false_iff, bne_eq_false_iff_eq]
  rfl

theorem forall_keyedOf {window : Aware × Aware} {limit : Nat} {binding : CalendarBinding}
    {batch : ProviderEventBatch}
    (h : provider binding window.1 window.2 limit = .ok batch) :
    (∀ event ∈ keyedOf provider window limit binding, event.2.conflicts = false) ↔
      ∀ event ∈ batch.events, event.IsFree := by
  simp only [keyedOf, h, List.forall_mem_map, conflicts_eq_false]

/-- **When a window is available:** every calendar that the caller may read was read whole, the
events together fit one listing, and none of them occupies its time. -/
theorem checkAvailability_iff {availability : Availability}
    (h : service.checkAvailability provider start end_at selection caller_entity_id
      = .ok availability) :
    ∃ caller window, caller_entity_id = some caller ∧
      parseWindow service.tz start end_at = .ok window ∧
      service.selected caller selection ≠ [] ∧
      (availability.available = true ↔
        (∀ binding ∈ service.selected caller selection, ∃ batch,
          provider binding window.1 window.2 MAX_EVENT_LIMIT = .ok batch ∧
            batch.complete = true ∧ ∀ event ∈ batch.events, event.IsFree) ∧
        ((service.selected caller selection).flatMap
          (keyedOf provider window MAX_EVENT_LIMIT)).length ≤ MAX_EVENT_LIMIT) := by
  obtain ⟨listing, hlisting, rfl⟩ := Except.map_eq_ok.1 h
  obtain ⟨caller, window, rfl, hwindow, hne, hassemble⟩ := listEvents_eq_ok hlisting
  have hgathered := assemble_gathered hne hassemble
  rw [Option.getD_some] at hgathered
  refine ⟨caller, window, rfl, hwindow, hgathered.authorized, ?_⟩
  obtain ⟨merged, hperm, -, hevents⟩ := hgathered.events
  have havailable : (availabilityOf listing).available = true ↔
      listing.complete = true ∧ ∀ event ∈ listing.events, event.conflicts = false := by
    simp [availabilityOf]
  rw [havailable, hgathered.complete_iff, and_right_comm]
  refine and_congr_left fun htotal => ?_
  have hall : (∀ event ∈ listing.events, event.conflicts = false) ↔
      ∀ binding ∈ service.selected caller selection,
        ∀ event ∈ keyedOf provider window MAX_EVENT_LIMIT binding, event.2.conflicts = false := by
    rw [hevents, List.take_of_length_le (hperm.length_eq.trans_le htotal),
      List.forall_mem_map]
    simp only [hperm.mem_iff, List.mem_flatMap]
    exact ⟨fun h binding hbinding event hevent => h event ⟨binding, hbinding, hevent⟩,
      fun h event ⟨binding, hbinding, hevent⟩ => h binding hbinding event hevent⟩
  rw [hall, ← forall₂_and]
  refine forall₂_congr fun binding _ => ?_
  constructor
  · rintro ⟨⟨batch, hbatch, hcomplete⟩, hfree⟩
    exact ⟨batch, hbatch, hcomplete, (forall_keyedOf hbatch).1 hfree⟩
  · rintro ⟨batch, hbatch, hcomplete, hfree⟩
    exact ⟨⟨batch, hbatch, hcomplete⟩, (forall_keyedOf hbatch).2 hfree⟩

theorem mem_reduceOption_of_mapM {zones : Zones} {default_timezone : String} {items : List Json}
    {found : List (Option ProviderEvent)}
    (h : items.mapM (itemEvent zones default_timezone) = .ok found) {item : Json}
    (hitem : item ∈ items) : ∃ event?, itemEvent zones default_timezone item = .ok event? ∧
      ∀ event ∈ event?, event ∈ found.reduceOption := by
  obtain ⟨event?, hmem, hevent⟩ := Except.exists_of_mem_mapM h hitem
  refine ⟨event?, hevent, fun event hsome => ?_⟩
  rw [List.reduceOption_mem_iff]
  exact hsome ▸ hmem

theorem status_of_ne {status : Json} (h : status ≠ .str "cancelled") :
    (nonEmpty? status).getD "confirmed" ≠ "cancelled" := by
  cases status with
  | str text =>
      by_cases hempty : text = ""
      · simp [nonEmpty?, hempty]
      · simpa [nonEmpty?, hempty] using h
  | null => simp [nonEmpty?]
  | bool value => simp [nonEmpty?]
  | int value => simp [nonEmpty?]
  | float value => simp [nonEmpty?]
  | arr items => simp [nonEmpty?]
  | obj fields => simp [nonEmpty?]

/-- Cancelled events are dropped. -/
theorem status_ne_cancelled {zones : Zones} {default_timezone : String} {item : Json}
    {event : ProviderEvent} (h : itemEvent zones default_timezone item = .ok (some event)) :
    event.status ≠ "cancelled" := by
  cases item with
  | obj fields =>
      change normalizeGoogleEvent zones default_timezone fields = _ at h
      rw [normalizeGoogleEvent] at h
      cases hid : nonEmpty? (Fields.getD fields "id") with
      | none => rw [hid] at h; cases Except.ok.inj h
      | some event_id =>
          rw [hid] at h
          dsimp only at h
          by_cases hcancelled : Fields.getD fields "status" = .str "cancelled"
          · rw [if_pos hcancelled] at h
            cases Except.ok.inj h
          · rw [if_neg hcancelled] at h
            obtain ⟨start, -, h⟩ := Except.bind_eq_ok.1 h
            obtain ⟨end_at, -, h⟩ := Except.bind_eq_ok.1 h
            rcases start with _ | ⟨start_at, start_tz, start_all_day⟩
            · cases Except.ok.inj h
            rcases end_at with _ | ⟨end_at, end_tz, end_all_day⟩
            · cases Except.ok.inj h
            obtain rfl := Option.some.inj (Except.ok.inj h)
            exact status_of_ne hcancelled
  | null => cases Except.ok.inj h
  | bool value => cases Except.ok.inj h
  | int value => cases Except.ok.inj h
  | float value => cases Except.ok.inj h
  | str value => cases Except.ok.inj h
  | arr items => cases Except.ok.inj h

/-- **A window that is called available is free.**  With Google as the provider, each calendar
that the caller may read was read from its first page to its last, and whatever on these pages is
an event does not occupy its time. -/
theorem available_free {zones : Zones} {default_timezone : String}
    {answers : CalendarBinding → Aware → Aware → Option (List Answer)}
    {availability : Availability}
    (honours : ∀ binding start end_at log, answers binding start end_at = some log →
      ∀ answer ∈ log, answer.Honours)
    (h : service.checkAvailability (googleProvider zones default_timezone answers) start end_at
      selection caller_entity_id = .ok availability)
    (hfree : availability.available = true) :
    ∃ caller window, caller_entity_id = some caller ∧
      parseWindow service.tz start end_at = .ok window ∧
      (∃ binding ∈ service.bindings, binding.readableBy caller = true) ∧
      ∀ binding ∈ service.bindings, binding.readableBy caller = true →
        selection.admits binding = true →
        ∃ log pages, answers binding window.1 window.2 = some log ∧ Run log none pages ∧
          Exhausted pages ∧ (pages.filterMap nextPageToken).Nodup ∧
          ∀ page ∈ pages, ∀ item ∈ pageItems page,
            ∃ event?, itemEvent zones default_timezone item = .ok event? ∧
              ∀ event ∈ event?, event.busy = false := by
  obtain ⟨caller, window, rfl, hwindow, hne, hiff⟩ := checkAvailability_iff h
  obtain ⟨hwhole, -⟩ := hiff.1 hfree
  refine ⟨caller, window, rfl, hwindow, ?_, fun binding hmem hreads hadmits => ?_⟩
  · obtain ⟨binding, hbinding⟩ := List.exists_mem_of_ne_nil _ hne
    obtain ⟨hmem, hreads, -⟩ := CalendarService.mem_selected.1 hbinding
    exact ⟨binding, hmem, hreads⟩
  obtain ⟨batch, hbatch, hcomplete, hevents⟩ :=
    hwhole binding (CalendarService.mem_selected.2 ⟨hmem, hreads, hadmits⟩)
  rw [googleProvider] at hbatch
  cases hlog : answers binding window.1 window.2 with
  | none => rw [hlog] at hbatch; cases hbatch
  | some log =>
      rw [hlog] at hbatch
      obtain ⟨pages, hseen⟩ := readPages_run (honours binding _ _ log hlog)
        (show ([] : List ProviderEvent).length < MAX_EVENT_LIMIT by decide) hbatch
      obtain ⟨found, hfound, hbatch_events⟩ := hseen.events_eq
      refine ⟨log, pages, rfl, hseen.run, hseen.complete_iff.1 hcomplete, hseen.nodup,
        fun page hpage item hitem => ?_⟩
      obtain ⟨on_page, hon_page, hpage_events⟩ := Except.exists_of_mem_mapM hfound hpage
      obtain ⟨items, hitems, rfl⟩ := Except.map_eq_ok.1 hpage_events
      obtain ⟨event?, hevent, hkept⟩ := mem_reduceOption_of_mapM hitems hitem
      refine ⟨event?, hevent, fun event hsome => ?_⟩
      have hlisted : event ∈ batch.events := by
        rw [hbatch_events, List.nil_append]
        exact List.mem_flatten.2 ⟨_, hon_page, hkept event hsome⟩
      exact (hevents event hlisted).resolve_right
        (status_ne_cancelled (hevent.trans (congrArg Except.ok hsome)))

end Windows

/-! ### A family's calendar -/

/-- A calendar that another member of the household may read, and one that they may not. -/
def familyService : CalendarService :=
  ⟨[⟨"family", "person:ann", "family@example", ["person:ben"]⟩,
    ⟨"work", "person:ann", "work@example", []⟩], "UTC", Zone.utc, by decide⟩

def familyProvider : Provider := googleProvider utcZones "UTC" fun _ _ _ => some familyLog

/-- The second of January is free, in the calendar that the reader sees. -/
def familyAvailability : Availability :=
  { start := "2026-01-02T00:00:00+00:00"
    end_at := "2026-01-03T00:00:00+00:00"
    timezone := "UTC"
    calendars := ["family"]
    checked := true
    available := true
    conflicts := []
    unavailable_calendars := []
    truncated_calendars := [] }

theorem eq_ok_of_toOption {ε α : Type} {x : Except ε α} {a : α} (h : x.toOption = some a) :
    x = .ok a := by
  cases x with
  | ok b => exact congrArg Except.ok (Option.some.inj h)
  | error e => cases h

theorem checkAvailability_family : familyService.checkAvailability familyProvider "2026-01-02"
    "2026-01-02" ⟨none, none⟩ (some "person:ben") = .ok familyAvailability :=
  eq_ok_of_toOption (by decide +kernel)

theorem listEvents_gathered_family : ∃ listing window,
    familyService.listEvents familyProvider "2026-01-02" "2026-01-02" ⟨none, none⟩ none
      (some "person:ben") = .ok listing ∧
    Gathered familyService familyProvider "person:ben" ⟨none, none⟩ window 25 listing := by
  have hok : (familyService.listEvents familyProvider "2026-01-02" "2026-01-02" ⟨none, none⟩ none
      (some "person:ben")).isOk = true := by
    decide +kernel
  obtain ⟨listing, hlisting⟩ := Except.exists_of_isOk hok
  obtain ⟨caller, window, hcaller, -, hgathered⟩ := listEvents_gathered hlisting
  cases Option.some.inj hcaller
  exact ⟨listing, window, hlisting, hgathered⟩

theorem available_free_family : ∃ pages, Run familyLog none pages ∧ Exhausted pages ∧
    ∀ page ∈ pages, ∀ item ∈ pageItems page, ∃ event?, itemEvent utcZones "UTC" item = .ok event? ∧
      ∀ event ∈ event?, event.busy = false := by
  obtain ⟨caller, window, hcaller, -, -, h⟩ := available_free
    (fun _ _ _ log hlog => Option.some.inj hlog ▸ familyLog_honours) checkAvailability_family rfl
  cases Option.some.inj hcaller
  obtain ⟨log, pages, hlog, hrun, hexhausted, -, hitems⟩ :=
    h ⟨"family", "person:ann", "family@example", ["person:ben"]⟩ (by decide) (by decide)
      (by decide)
  cases Option.some.inj hlog
  exact ⟨pages, hrun, hexhausted, hitems⟩

end Calendar
end HomeCortex
