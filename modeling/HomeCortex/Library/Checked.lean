/-
# Computations that may fail

Rules for `Except`: what it says that a sequence of steps succeeded.  A bind
succeeds iff its two parts do, a list is mapped successfully iff every element
is, and a loop that succeeds has kept whatever each of its steps keeps.  A loop
that appends to a list what each element gives after the results so far is
described by `Collects`.
-/

import Mathlib

namespace List

variable {α β γ : Type} {R : α → β → Prop} {xs : List α} {ys : List β}

theorem exists_of_forall₂_right (h : Forall₂ R xs ys) {y : β} (hy : y ∈ ys) :
    ∃ x ∈ xs, R x y := by
  induction h with
  | nil => exact absurd hy not_mem_nil
  | cons hxy _ ih =>
      rcases mem_cons.1 hy with rfl | hy
      · exact ⟨_, mem_cons_self, hxy⟩
      · obtain ⟨x, hx, hR⟩ := ih hy
        exact ⟨x, mem_cons_of_mem _ hx, hR⟩

theorem exists_of_forall₂_left (h : Forall₂ R xs ys) {x : α} (hx : x ∈ xs) :
    ∃ y ∈ ys, R x y := by
  obtain ⟨y, hy, hR⟩ := exists_of_forall₂_right h.flip hx
  exact ⟨y, hy, hR⟩

/-- Related lists have equal images when related elements do. -/
theorem map_eq_of_forall₂ {f : α → γ} {g : β → γ} (h : Forall₂ R xs ys)
    (hR : ∀ x y, R x y → g y = f x) : ys.map g = xs.map f := by
  induction h with
  | nil => rfl
  | cons hxy _ ih => rw [map_cons, map_cons, hR _ _ hxy, ih]

/-- Related lists stay related when the elements that pass a test are kept on one side, and
what they are related to is read off on the other. -/
theorem forall₂_filter_filterMap {S : α → γ → Prop} {p : α → Bool} {f : β → Option γ}
    (h : Forall₂ R xs ys) (hR : ∀ x y, R x y →
      (p x = true ∧ ∃ z, f y = some z ∧ S x z) ∨ (p x = false ∧ f y = none)) :
    Forall₂ S (xs.filter p) (ys.filterMap f) := by
  induction h with
  | nil => exact .nil
  | cons hxy _ ih =>
      rw [filter_cons, filterMap_cons]
      rcases hR _ _ hxy with ⟨hp, z, hf, hS⟩ | ⟨hp, hf⟩
      · rw [hp, hf]
        exact .cons hS ih
      · rw [hp, hf]
        exact ih

end List

namespace Except

variable {ε α β γ σ : Type}

theorem bind_eq_ok {x : Except ε α} {f : α → Except ε β} {b : β} :
    (x >>= f) = .ok b ↔ ∃ a, x = .ok a ∧ f a = .ok b := by
  cases x <;> simp [bind, Except.bind]

theorem map_eq_ok {x : Except ε α} {f : α → β} {b : β} :
    x.map f = .ok b ↔ ∃ a, x = .ok a ∧ f a = b := by
  cases x <;> simp [Except.map]

@[simp] theorem throw_ne_ok {e : ε} {b : β} : ((throw e : Except ε β) = .ok b) ↔ False := by
  simp [throw, throwThe, MonadExceptOf.throw]

@[simp] theorem pure_eq_ok {a b : β} : ((pure a : Except ε β) = .ok b) ↔ a = b := by
  simp [pure, Except.pure]

/-- A guard that raises when `c` holds lets through exactly when it does not. -/
theorem guard_bind_eq_ok {c : Prop} [Decidable c] {e : ε} {f : PUnit → Except ε β} {b : β} :
    ((if c then throw e else pure PUnit.unit) >>= f) = .ok b ↔ ¬c ∧ f PUnit.unit = .ok b := by
  by_cases h : c <;> simp [h, bind, Except.bind, pure, Except.pure, throw, throwThe,
    MonadExceptOf.throw]

theorem mapM_nil_eq_ok {f : α → Except ε β} {ys : List β} :
    ([] : List α).mapM f = .ok ys ↔ ys = [] := by
  rw [List.mapM_nil]
  exact pure_eq_ok.trans eq_comm

theorem mapM_cons_eq_ok {f : α → Except ε β} {x : α} {xs : List α} {ys : List β} :
    (x :: xs).mapM f = .ok ys ↔ ∃ y zs, f x = .ok y ∧ xs.mapM f = .ok zs ∧ ys = y :: zs := by
  rw [List.mapM_cons, bind_eq_ok]
  constructor
  · rintro ⟨y, hy, h⟩
    obtain ⟨zs, hzs, h⟩ := bind_eq_ok.1 h
    exact ⟨y, zs, hy, hzs, (pure_eq_ok.1 h).symm⟩
  · rintro ⟨y, zs, hy, hzs, rfl⟩
    exact ⟨y, hy, bind_eq_ok.2 ⟨zs, hzs, rfl⟩⟩

/-- **Mapping succeeds exactly elementwise.** -/
theorem mapM_eq_ok {f : α → Except ε β} {xs : List α} {ys : List β} :
    xs.mapM f = .ok ys ↔ List.Forall₂ (fun x y => f x = .ok y) xs ys := by
  induction xs generalizing ys with
  | nil => rw [mapM_nil_eq_ok, List.forall₂_nil_left_iff]
  | cons x xs ih =>
      rw [mapM_cons_eq_ok]
      constructor
      · rintro ⟨y, zs, hy, hzs, rfl⟩
        exact .cons hy (ih.1 hzs)
      · rintro (_ | ⟨hy, hzs⟩)
        exact ⟨_, _, hy, ih.2 hzs, rfl⟩

/-- A mapping fails only where an element does. -/
theorem mapM_eq_error {f : α → Except ε β} {xs : List α} {e : ε} (h : xs.mapM f = .error e) :
    ∃ x ∈ xs, f x = .error e := by
  induction xs with
  | nil => cases h
  | cons x xs ih =>
      rw [List.mapM_cons] at h
      cases hx : f x with
      | error other =>
          rw [hx] at h
          cases h
          exact ⟨x, List.mem_cons_self, hx⟩
      | ok y =>
          rw [hx] at h
          cases hxs : xs.mapM f with
          | error other =>
              rw [hxs] at h
              cases h
              obtain ⟨z, hz, hfail⟩ := ih hxs
              exact ⟨z, List.mem_cons_of_mem _ hz, hfail⟩
          | ok ys =>
              rw [hxs] at h
              cases h

theorem mapM_congr {f g : α → Except ε β} {xs : List α} (h : ∀ x ∈ xs, f x = g x) :
    xs.mapM f = xs.mapM g := by
  induction xs with
  | nil => rfl
  | cons x xs ih =>
      rw [List.mapM_cons, List.mapM_cons, h x List.mem_cons_self,
        ih fun y hy => h y (List.mem_cons_of_mem _ hy)]

/-- Mapping the parts of a list one by one is mapping the list. -/
theorem mapM_flatMap (g : γ → List α) (f : α → Except ε β) (xs : List γ) :
    (xs.flatMap g).mapM f = (xs.mapM fun x => (g x).mapM f).map List.flatten := by
  induction xs with
  | nil => rfl
  | cons x xs ih =>
      rw [List.flatMap_cons, List.mapM_append, ih, List.mapM_cons]
      cases (g x).mapM f with
      | error e => rfl
      | ok ys => cases xs.mapM fun x => (g x).mapM f <;> rfl

/-- Every result of a successful mapping comes from an element. -/
theorem exists_of_mapM_mem {f : α → Except ε β} {xs : List α} {ys : List β} {y : β}
    (h : xs.mapM f = .ok ys) (hy : y ∈ ys) : ∃ x ∈ xs, f x = .ok y :=
  List.exists_of_forall₂_right (mapM_eq_ok.1 h) hy

/-- Every element of a successfully mapped list has a result. -/
theorem exists_of_mem_mapM {f : α → Except ε β} {xs : List α} {ys : List β} {x : α}
    (h : xs.mapM f = .ok ys) (hx : x ∈ xs) : ∃ y ∈ ys, f x = .ok y :=
  List.exists_of_forall₂_left (mapM_eq_ok.1 h) hx

theorem exists_of_isOk {x : Except ε α} (h : x.isOk = true) : ∃ a, x = .ok a := by
  cases x with
  | ok a => exact ⟨a, rfl⟩
  | error e => cases h

/-- A list is mapped successfully when each element is. -/
theorem mapM_isOk {f : α → Except ε β} {xs : List α} (h : ∀ x ∈ xs, ∃ y, f x = .ok y) :
    ∃ ys, xs.mapM f = .ok ys := by
  induction xs with
  | nil => exact ⟨[], rfl⟩
  | cons x xs ih =>
      obtain ⟨y, hy⟩ := h x List.mem_cons_self
      obtain ⟨ys, hys⟩ := ih fun x hx => h x (List.mem_cons_of_mem _ hx)
      exact ⟨y :: ys, mapM_cons_eq_ok.2 ⟨y, ys, hy, hys, rfl⟩⟩

theorem filterAuxM_eq_ok {p : α → Except ε Bool} {xs acc ys : List α}
    (h : xs.filterAuxM p acc = .ok ys) :
    ∃ q : α → Bool, (∀ x ∈ xs, p x = .ok (q x)) ∧ ys = (xs.filter q).reverse ++ acc := by
  classical
  induction xs generalizing acc with
  | nil => exact ⟨fun _ => false, nofun, (pure_eq_ok.1 h).symm⟩
  | cons x xs ih =>
      obtain ⟨b, hb, h⟩ := bind_eq_ok.1 h
      obtain ⟨q, hq, rfl⟩ := ih h
      refine ⟨fun y => if y = x then b else q y, fun y hy => ?_, ?_⟩
      · by_cases hyx : y = x
        · simp [hyx, hb]
        · simpa [hyx] using hq y ((List.mem_cons.1 hy).resolve_left hyx)
      · have hfilter : xs.filter (fun y => if y = x then b else q y) = xs.filter q := by
          refine List.filter_congr fun y hy => ?_
          by_cases hyx : y = x
          · subst hyx
            simpa [hb] using hq y hy
          · simp [hyx]
        rw [List.filter_cons, hfilter]
        cases b <;> simp

/-- **Filtering keeps exactly the elements that pass**, and every test succeeds. -/
theorem filterM_eq_ok {p : α → Except ε Bool} {xs ys : List α} (h : xs.filterM p = .ok ys) :
    ∃ q : α → Bool, (∀ x ∈ xs, p x = .ok (q x)) ∧ ys = xs.filter q := by
  obtain ⟨zs, hzs, h⟩ := bind_eq_ok.1 h
  obtain ⟨q, hq, rfl⟩ := filterAuxM_eq_ok hzs
  rw [pure_eq_ok] at h
  exact ⟨q, hq, by rw [← h]; simp⟩

theorem mem_of_filterM {p : α → Except ε Bool} {xs ys : List α} (h : xs.filterM p = .ok ys)
    {x : α} : x ∈ ys ↔ x ∈ xs ∧ p x = .ok true := by
  obtain ⟨q, hq, rfl⟩ := filterM_eq_ok h
  rw [List.mem_filter]
  refine and_congr_right fun hx => ?_
  rw [hq x hx, Except.ok.injEq]

/-- All tests of a list succeed and pass. -/
theorem allM_eq_ok_true {p : α → Except ε Bool} {xs : List α} :
    xs.allM p = .ok true ↔ ∀ x ∈ xs, p x = .ok true := by
  induction xs with
  | nil => simp [pure, Except.pure]
  | cons x xs ih =>
      rw [List.allM_cons, bind_eq_ok, List.forall_mem_cons, ← ih]
      constructor
      · rintro ⟨b, hb, h⟩
        cases b with
        | false => simp [pure, Except.pure] at h
        | true => exact ⟨hb, by simpa using h⟩
      · rintro ⟨hx, hxs⟩
        exact ⟨true, hx, by simpa using hxs⟩

section Tests

variable {p : α → Except ε Bool} {xs : List α}

/-- A list that fails has a test that fails. -/
theorem allM_eq_ok_false (h : xs.allM p = .ok false) : ∃ x ∈ xs, p x = .ok false := by
  induction xs with
  | nil => cases h
  | cons x xs ih =>
      rw [List.allM_cons] at h
      obtain ⟨passed, hx, h⟩ := bind_eq_ok.1 h
      cases passed with
      | false => exact ⟨x, List.mem_cons_self, hx⟩
      | true =>
          obtain ⟨y, hy, hfail⟩ := ih h
          exact ⟨y, List.mem_cons_of_mem _ hy, hfail⟩

/-- Tests that decide in two orders decide alike. -/
theorem allM_perm {ys : List α} (h : xs.Perm ys) {a b : Bool} (hx : xs.allM p = .ok a)
    (hy : ys.allM p = .ok b) : a = b := by
  cases a with
  | true =>
      cases b with
      | true => rfl
      | false =>
          obtain ⟨y, hmem, hfail⟩ := allM_eq_ok_false hy
          rw [allM_eq_ok_true.1 hx y (h.mem_iff.2 hmem)] at hfail
          cases hfail
  | false =>
      cases b with
      | false => rfl
      | true =>
          obtain ⟨x, hmem, hfail⟩ := allM_eq_ok_false hx
          rw [allM_eq_ok_true.1 hy x (h.mem_iff.1 hmem)] at hfail
          cases hfail

theorem anyM_eq_ok_true (h : xs.anyM p = .ok true) : ∃ x ∈ xs, p x = .ok true := by
  induction xs with
  | nil => cases h
  | cons x xs ih =>
      rw [List.anyM_cons] at h
      cases hx : p x with
      | error error =>
          rw [hx] at h
          cases h
      | ok passed =>
          rw [hx] at h
          cases passed with
          | true => exact ⟨x, List.mem_cons_self, hx⟩
          | false =>
              obtain ⟨y, hy, hpass⟩ := ih h
              exact ⟨y, List.mem_cons_of_mem _ hy, hpass⟩

theorem anyM_eq_ok_false (h : xs.anyM p = .ok false) : ∀ x ∈ xs, p x = .ok false := by
  induction xs with
  | nil => exact fun x hx => by cases hx
  | cons x xs ih =>
      rw [List.anyM_cons] at h
      cases hx : p x with
      | error error =>
          rw [hx] at h
          cases h
      | ok passed =>
          rw [hx] at h
          cases passed with
          | true => cases h
          | false =>
              intro y hy
              rcases List.mem_cons.1 hy with rfl | hy
              · exact hx
              · exact ih h y hy

/-- The error of a test is that of one of its elements. -/
theorem anyM_eq_error {e : ε} (h : xs.anyM p = .error e) : ∃ x ∈ xs, p x = .error e := by
  induction xs with
  | nil => cases h
  | cons x xs ih =>
      rw [List.anyM_cons] at h
      cases hx : p x with
      | error other =>
          rw [hx] at h
          cases h
          exact ⟨x, List.mem_cons_self, hx⟩
      | ok passed =>
          rw [hx] at h
          cases passed with
          | true => cases h
          | false =>
              obtain ⟨y, hy, hfail⟩ := ih h
              exact ⟨y, List.mem_cons_of_mem _ hy, hfail⟩

theorem filterAuxM_eq_error {acc : List α} {e : ε}
    (h : xs.filterAuxM p acc = .error e) : ∃ x ∈ xs, p x = .error e := by
  induction xs generalizing acc with
  | nil => cases h
  | cons x xs ih =>
      rw [List.filterAuxM] at h
      cases hx : p x with
      | error other =>
          rw [hx] at h
          cases h
          exact ⟨x, List.mem_cons_self, hx⟩
      | ok passed =>
          rw [hx] at h
          obtain ⟨y, hy, hfail⟩ := ih h
          exact ⟨y, List.mem_cons_of_mem _ hy, hfail⟩

/-- Filtering fails only where a test does. -/
theorem filterM_eq_error {e : ε} (h : xs.filterM p = .error e) :
    ∃ x ∈ xs, p x = .error e := by
  unfold List.filterM at h
  cases haux : xs.filterAuxM p [] with
  | error other =>
      rw [haux] at h
      cases h
      exact filterAuxM_eq_error haux
  | ok kept =>
      rw [haux] at h
      cases h

end Tests

/-- **The loop rule.**  What the start satisfies and every successful step
keeps holds of the result of a successful loop. -/
theorem foldlM_invariant {f : σ → α → Except ε σ} (P : σ → Prop) {xs : List α} {s t : σ}
    (h : xs.foldlM f s = .ok t) (h0 : P s)
    (step : ∀ s x t, x ∈ xs → P s → f s x = .ok t → P t) : P t := by
  induction xs generalizing s with
  | nil =>
      rw [List.foldlM_nil, pure_eq_ok] at h
      exact h ▸ h0
  | cons x xs ih =>
      rw [List.foldlM_cons, bind_eq_ok] at h
      obtain ⟨u, hu, h⟩ := h
      exact ih h (step s x u List.mem_cons_self h0 hu)
        fun s x t hx => step s x t (List.mem_cons_of_mem _ hx)

/-- `f`, given the results so far, collects `ys` from `xs` after `acc`. -/
inductive Collects (f : List β → α → Except ε β) : List β → List α → List β → Prop
  | nil (acc : List β) : Collects f acc [] []
  | cons {acc : List β} {x : α} {xs : List α} {y : β} {ys : List β} (head : f acc x = .ok y)
      (tail : Collects f (acc ++ [y]) xs ys) : Collects f acc (x :: xs) (y :: ys)

namespace Collects

variable {f : List β → α → Except ε β} {acc : List β} {xs xs' : List α} {ys ys' : List β}

/-- The loop that appends collects. -/
theorem foldlM_eq_ok {out : List β} :
    xs.foldlM (fun acc x => do return acc ++ [← f acc x]) acc = .ok out ↔
      ∃ ys, out = acc ++ ys ∧ Collects f acc xs ys := by
  induction xs generalizing acc with
  | nil =>
      rw [List.foldlM_nil, pure_eq_ok]
      constructor
      · rintro rfl
        exact ⟨[], (List.append_nil _).symm, .nil acc⟩
      · rintro ⟨ys, rfl, ⟨⟩⟩
        exact (List.append_nil _).symm
  | cons x xs ih =>
      rw [List.foldlM_cons, bind_eq_ok]
      constructor
      · rintro ⟨acc', hstep, hrest⟩
        obtain ⟨y, hy, hacc⟩ := bind_eq_ok.1 hstep
        rw [pure_eq_ok] at hacc
        subst hacc
        obtain ⟨ys, rfl, htail⟩ := ih.1 hrest
        exact ⟨y :: ys, by simp, .cons hy htail⟩
      · rintro ⟨_, rfl, _ | ⟨hy, htail⟩⟩
        exact ⟨_, bind_eq_ok.2 ⟨_, hy, rfl⟩, ih.2 ⟨_, by simp, htail⟩⟩

theorem append_iff {zs : List β} :
    Collects f acc (xs ++ xs') zs ↔
      ∃ ys ys', zs = ys ++ ys' ∧ Collects f acc xs ys ∧ Collects f (acc ++ ys) xs' ys' := by
  induction xs generalizing acc zs with
  | nil =>
      constructor
      · exact fun h => ⟨[], zs, rfl, .nil acc, by simpa using h⟩
      · rintro ⟨_, ys', rfl, ⟨⟩, h⟩
        simpa using h
  | cons x xs ih =>
      constructor
      · rintro (_ | ⟨head, tail⟩)
        obtain ⟨ys, ys', rfl, h, h'⟩ := ih.1 tail
        exact ⟨_ :: ys, ys', rfl, .cons head h, by simpa using h'⟩
      · rintro ⟨_, ys', rfl, _ | ⟨head, tail⟩, h'⟩
        exact .cons head (ih.2 ⟨_, ys', rfl, tail, by simpa using h'⟩)

/-- Nothing is collected exactly from nothing. -/
theorem eq_nil_iff (h : Collects f acc xs ys) : xs = [] ↔ ys = [] := by
  cases h <;> simp

/-- What every step gives, elementwise. -/
theorem forall₂ {R : α → β → Prop} (h : Collects f acc xs ys)
    (step : ∀ acc x y, f acc x = .ok y → R x y) : List.Forall₂ R xs ys := by
  induction h with
  | nil => exact .nil
  | cons head _ ih => exact .cons (step _ _ _ head) ih

/-- A list on which every step builds on a good list is good. -/
theorem invariant (P : List β → Prop) (h : Collects f acc xs ys) (h0 : P acc)
    (step : ∀ acc x y, P acc → f acc x = .ok y → P (acc ++ [y])) : P (acc ++ ys) := by
  induction h with
  | nil => simpa using h0
  | cons head _ ih => simpa using ih (step _ _ _ h0 head)

end Collects

end Except
