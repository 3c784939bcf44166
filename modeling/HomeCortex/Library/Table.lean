/-
# Finite tables keyed by a unique identity

A table maps finitely many keys to values.  It is Mathlib's association list
with one entry per key, so a table with two records of one key cannot be built.
Mathlib supplies `lookup`, `insert` (which replaces) and `erase`; this file adds
what a record store needs on top: deleting and selecting the records that
satisfy a predicate, inserting a whole list of records, and keeping of some keys
only the records of a list (`retain`), with the lookup after each.  Where the
keys fall into groups, writing the records of a group and dropping the rest of
it (`replaceGroup`) makes the list the content of that group, and after a run of
such writes each group has what was written to it last.
-/

import Mathlib

/-- A finite map from keys to values with one value per key. -/
abbrev Table (κ α : Type) := AList (fun _ : κ => α)

namespace AList

variable {κ α : Type}

/-- Two tables with the same lookups, in whatever order their entries stand. -/
def Same [DecidableEq κ] (s t : Table κ α) : Prop := ∀ k, s.lookup k = t.lookup k

/-- Delete every entry that satisfies `p`. -/
def deleteWhere (p : κ → α → Bool) (t : Table κ α) : Table κ α :=
  ⟨t.entries.filter fun e => !p e.1 e.2, t.nodupKeys.sublist List.filter_sublist⟩

/-- The entries that satisfy `p`, as pairs. -/
def select (p : κ → α → Bool) (t : Table κ α) : List (κ × α) :=
  (t.entries.filter fun e => p e.1 e.2).map fun e => (e.1, e.2)

/-- Insert the pairs of a list from left to right; a later pair replaces an
earlier one of the same key. -/
def insertAll [DecidableEq κ] (t : Table κ α) (es : List (κ × α)) : Table κ α :=
  es.foldl (fun t e => t.insert e.1 e.2) t

/-- Of the keys that satisfy `p`, keep only those of the list. -/
def retain [DecidableEq κ] (p : κ → Bool) (ks : List κ) (t : Table κ α) : Table κ α :=
  t.deleteWhere fun k _ => p k && !decide (k ∈ ks)

/-- Write the records of a group of keys and drop every other record of it. -/
def replaceGroup {γ : Type} [DecidableEq κ] [DecidableEq γ] (group : κ → γ) (t : Table κ α)
    (write : γ × List (κ × α)) : Table κ α :=
  (t.insertAll write.2).retain (fun k => group k == write.1) (write.2.map Prod.fst)

/-- The selected entries have pairwise different keys. -/
theorem nodup_select (p : κ → α → Bool) (t : Table κ α) : ((t.select p).map Prod.fst).Nodup := by
  have h : (t.select p).map Prod.fst = (t.entries.filter fun e => p e.1 e.2).keys := by
    simp [select, List.keys, Function.comp_def]
  rw [h]
  exact t.nodupKeys.sublist List.filter_sublist

section Lookup

variable [DecidableEq κ]

theorem Same.refl (t : Table κ α) : t.Same t := fun _ => rfl

theorem Same.symm {s t : Table κ α} (h : s.Same t) : t.Same s := fun k => (h k).symm

theorem Same.trans {s t u : Table κ α} (h : s.Same t) (h' : t.Same u) : s.Same u :=
  fun k => (h k).trans (h' k)

theorem lookup_eq_some_iff {t : Table κ α} {k : κ} {v : α} :
    t.lookup k = some v ↔ (⟨k, v⟩ : Σ _ : κ, α) ∈ t.entries :=
  AList.mem_lookup_iff

theorem lookup_deleteWhere_eq_some {p : κ → α → Bool} {t : Table κ α} {k : κ} {v : α} :
    (t.deleteWhere p).lookup k = some v ↔ t.lookup k = some v ∧ p k v = false := by
  simp only [lookup_eq_some_iff, deleteWhere, List.mem_filter, Bool.not_eq_true']

/-- An entry that does not satisfy `p` survives, and a missing one stays missing. -/
theorem lookup_deleteWhere_of_keep {p : κ → α → Bool} {t : Table κ α} {k : κ}
    (h : ∀ v, t.lookup k = some v → p k v = false) :
    (t.deleteWhere p).lookup k = t.lookup k := by
  ext v
  rw [lookup_deleteWhere_eq_some]
  exact ⟨fun hv => hv.1, fun hv => ⟨hv, h v hv⟩⟩

theorem mem_select {p : κ → α → Bool} {t : Table κ α} {k : κ} {v : α} :
    (k, v) ∈ t.select p ↔ t.lookup k = some v ∧ p k v = true := by
  simp only [lookup_eq_some_iff, select, List.mem_map, List.mem_filter, Prod.mk.injEq]
  constructor
  · rintro ⟨⟨k', v'⟩, ⟨hmem, hp⟩, rfl, rfl⟩
    exact ⟨hmem, hp⟩
  · rintro ⟨hmem, hp⟩
    exact ⟨⟨k, v⟩, ⟨hmem, hp⟩, rfl, rfl⟩

@[simp] theorem insertAll_nil (t : Table κ α) : t.insertAll [] = t := rfl

@[simp] theorem insertAll_cons (t : Table κ α) (e : κ × α) (es : List (κ × α)) :
    t.insertAll (e :: es) = (t.insert e.1 e.2).insertAll es := rfl

/-- A key outside the list keeps its value. -/
theorem lookup_insertAll_of_not_mem {t : Table κ α} {es : List (κ × α)} {k : κ}
    (h : k ∉ es.map Prod.fst) : (t.insertAll es).lookup k = t.lookup k := by
  induction es generalizing t with
  | nil => rfl
  | cons e es ih =>
      rw [List.map_cons, List.mem_cons, not_or] at h
      rw [insertAll_cons, ih h.2, AList.lookup_insert_ne h.1]

/-- A pair of a list with pairwise different keys is found afterwards. -/
theorem lookup_insertAll_of_mem {t : Table κ α} {es : List (κ × α)} {k : κ} {v : α}
    (hnd : (es.map Prod.fst).Nodup) (h : (k, v) ∈ es) : (t.insertAll es).lookup k = some v := by
  induction es generalizing t with
  | nil => exact absurd h List.not_mem_nil
  | cons e es ih =>
      rw [List.map_cons, List.nodup_cons] at hnd
      rw [insertAll_cons]
      rcases List.mem_cons.1 h with rfl | h
      · rw [lookup_insertAll_of_not_mem hnd.1, AList.lookup_insert]
      · exact ih hnd.2 h

/-- What a key is bound to after `insertAll` comes from the list or was there. -/
theorem lookup_insertAll_cases {t : Table κ α} {es : List (κ × α)} {k : κ} {v : α}
    (h : (t.insertAll es).lookup k = some v) : (k, v) ∈ es ∨ t.lookup k = some v := by
  induction es generalizing t with
  | nil => exact Or.inr h
  | cons e es ih =>
      rw [insertAll_cons] at h
      rcases ih h with h | h
      · exact Or.inl (List.mem_cons_of_mem _ h)
      · by_cases hk : k = e.1
        · subst hk
          rw [AList.lookup_insert] at h
          cases h
          exact Or.inl List.mem_cons_self
        · rw [AList.lookup_insert_ne hk] at h
          exact Or.inr h

theorem lookup_retain_eq_some {p : κ → Bool} {ks : List κ} {t : Table κ α} {k : κ} {v : α} :
    (t.retain p ks).lookup k = some v ↔ t.lookup k = some v ∧ (p k = true → k ∈ ks) := by
  rw [retain, lookup_deleteWhere_eq_some]
  cases p k <;> simp

theorem lookup_retain_of_not {p : κ → Bool} {ks : List κ} {t : Table κ α} {k : κ}
    (h : p k = false) : (t.retain p ks).lookup k = t.lookup k :=
  lookup_deleteWhere_of_keep fun _ _ => by simp [h]

theorem lookup_eq_none_of_not_mem {es : List (κ × α)} {k : κ} (h : k ∉ es.map Prod.fst) :
    es.lookup k = none := by
  rw [List.lookup_eq_none_iff]
  intro e he
  simpa using fun hk : k = e.1 => h (List.mem_map.2 ⟨e, he, hk.symm⟩)

theorem lookup_eq_some_of_mem {es : List (κ × α)} {k : κ} {v : α}
    (hnd : (es.map Prod.fst).Nodup) (h : (k, v) ∈ es) : es.lookup k = some v := by
  induction es with
  | nil => exact absurd h List.not_mem_nil
  | cons e es ih =>
      rw [List.map_cons, List.nodup_cons] at hnd
      rcases List.mem_cons.1 h with rfl | h
      · simp
      · have hne : k ≠ e.1 := by
          rintro rfl
          exact hnd.1 (List.mem_map.2 ⟨_, h, rfl⟩)
        rw [List.lookup_cons, beq_eq_false_iff_ne.2 hne]
        exact ih hnd.2 h

theorem mem_of_lookup_eq_some {es : List (κ × α)} {k : κ} {v : α} (h : es.lookup k = some v) :
    (k, v) ∈ es := by
  obtain ⟨l₁, l₂, rfl, -⟩ := List.lookup_eq_some_iff.1 h
  simp

section Groups

variable {γ : Type} [DecidableEq γ] {group : κ → γ}

/-- **Replacing a group.**  The group has the list and the rest is unchanged. -/
theorem lookup_replaceGroup {t : Table κ α} {g : γ} {es : List (κ × α)} {k : κ}
    (hnd : (es.map Prod.fst).Nodup) (hg : ∀ e ∈ es, group e.1 = g) :
    (t.replaceGroup group (g, es)).lookup k = if group k = g then es.lookup k else t.lookup k := by
  ext v
  rw [replaceGroup, lookup_retain_eq_some, beq_iff_eq]
  split
  case isTrue hk =>
    constructor
    · rintro ⟨hlookup, hmem⟩
      obtain ⟨⟨k', w⟩, he, rfl⟩ := List.mem_map.1 (hmem hk)
      rw [lookup_insertAll_of_mem hnd he] at hlookup
      cases hlookup
      exact lookup_eq_some_of_mem hnd he
    · intro h
      have he := mem_of_lookup_eq_some h
      exact ⟨lookup_insertAll_of_mem hnd he, fun _ => List.mem_map.2 ⟨_, he, rfl⟩⟩
  case isFalse hk =>
    have hmem : k ∉ es.map Prod.fst := by
      intro h
      obtain ⟨e, he, rfl⟩ := List.mem_map.1 h
      exact hk (hg e he)
    rw [lookup_insertAll_of_not_mem hmem]
    exact ⟨fun h => h.1, fun h => ⟨h, fun hk' => absurd hk' hk⟩⟩

/-- **A run of replacements.**  Each group has what was written to it last, and
a group nothing was written to is unchanged. -/
theorem lookup_foldl_replaceGroup {writes : List (γ × List (κ × α))} {t : Table κ α} {k : κ}
    (hnd : ∀ w ∈ writes, (w.2.map Prod.fst).Nodup)
    (hg : ∀ w ∈ writes, ∀ e ∈ w.2, group e.1 = w.1) :
    (writes.foldl (replaceGroup group) t).lookup k =
      (writes.reverse.lookup (group k)).elim (t.lookup k) fun es => es.lookup k := by
  induction writes using List.reverseRecOn with
  | nil => rfl
  | append_singleton writes w ih =>
      obtain ⟨g, es⟩ := w
      have hw : (g, es) ∈ writes ++ [(g, es)] := by simp
      rw [List.foldl_append, List.foldl_cons, List.foldl_nil,
        lookup_replaceGroup (hnd _ hw) (hg _ hw), List.reverse_append, List.reverse_singleton,
        List.singleton_append, List.lookup_cons]
      split
      case isTrue hk => simp [hk]
      case isFalse hk =>
        rw [beq_eq_false_iff_ne.2 hk]
        exact ih (fun w h => hnd w (List.mem_append_left _ h))
          fun w h => hg w (List.mem_append_left _ h)

end Groups

end Lookup

end AList
