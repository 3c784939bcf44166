/-
# Linearization

Calls that run interleaved, in steps, are serializable when each of them takes
effect at one step: there it does to an abstract state all that it does when it
runs alone, and promises its answer, and no other step changes the abstract state
or a promise.  The order of these steps is the sequential order.
-/

import Mathlib

namespace HomeCortex
namespace Linearization

variable {Call Answer State System : Type}

/-- Calls run one after the other, with the answers each of them gives; `alone` says
what a call does when nothing interferes. -/
inductive Sequential (alone : Call → State → Answer → State → Prop) (calls : List Call) :
    List (Nat × Answer) → State → State → Prop
  | nil (state : State) : Sequential alone calls [] state state
  | snoc {log : List (Nat × Answer)} {first before after : State} {index : Nat} {call : Call}
      {answer : Answer} (earlier : Sequential alone calls log first before)
      (called : calls[index]? = some call) (last : alone call before answer after) :
      Sequential alone calls (log ++ [(index, answer)]) first after

/-- What every call keeps, a sequence of calls keeps. -/
theorem Sequential.invariant {alone : Call → State → Answer → State → Prop} {calls : List Call}
    {log : List (Nat × Answer)} {first last : State} (P : State → Prop)
    (h : Sequential alone calls log first last) (h0 : P first)
    (step : ∀ call state answer after, call ∈ calls → P state → alone call state answer after →
      P after) : P last := by
  induction h with
  | nil => exact h0
  | snoc _ called last ih => exact step _ _ _ _ (List.mem_of_getElem? called) (ih h0) last

theorem Sequential.eq_of_nil {alone : Call → State → Answer → State → Prop} {calls : List Call}
    {first last : State} (h : Sequential alone calls [] first last) : last = first := by
  generalize hlog : ([] : List (Nat × Answer)) = log at h
  cases h with
  | nil => rfl
  | snoc => exact absurd hlog (by simp)

/-- The last call of a sequence. -/
theorem Sequential.last_call {alone : Call → State → Answer → State → Prop} {calls : List Call}
    {log : List (Nat × Answer)} {index : Nat} {answer : Answer} {first last : State}
    (h : Sequential alone calls (log ++ [(index, answer)]) first last) :
    ∃ call before, Sequential alone calls log first before ∧ calls[index]? = some call ∧
      alone call before answer last := by
  generalize hall : log ++ [(index, answer)] = all at h
  cases h with
  | nil => exact absurd hall (by simp)
  | snoc earlier called last =>
      obtain ⟨rfl, hentry⟩ := List.append_inj' hall rfl
      obtain ⟨rfl, rfl⟩ := Prod.mk.inj (List.singleton_inj.1 hentry)
      exact ⟨_, _, earlier, called, last⟩

/-- A step leaves the abstract state and the promises as they are, or is the step at
which one call takes effect. -/
def Effect (alone : Call → State → Answer → State → Prop) (calls : List Call)
    (abstract : System → State) (promise : System → Nat → Option Answer)
    (system system' : System) : Prop :=
  (abstract system' = abstract system ∧ promise system' = promise system) ∨
  ∃ index call answer, calls[index]? = some call ∧ promise system index = none ∧
    alone call (abstract system) answer (abstract system') ∧
    promise system' = Function.update (promise system) index (some answer)

/-- **The linearization rule.**  If every step of a run has at most the effect of
one whole call, the run has a sequential order: the calls that have promised an
answer, each once, give these answers when run one after the other. -/
theorem sequential_of_effects {alone : Call → State → Answer → State → Prop} {calls : List Call}
    {abstract : System → State} {promise : System → Nat → Option Answer}
    {Step : System → System → Prop} {initial final : System}
    (hinitial : ∀ index, promise initial index = none)
    (hstep : ∀ s t, Relation.ReflTransGen Step initial s → Step s t →
      Effect alone calls abstract promise s t)
    (hrun : Relation.ReflTransGen Step initial final) :
    ∃ log, Sequential alone calls log (abstract initial) (abstract final) ∧
      (log.map Prod.fst).Nodup ∧
      ∀ index answer, (index, answer) ∈ log ↔ promise final index = some answer := by
  induction hrun with
  | refl => exact ⟨[], .nil _, List.nodup_nil, by simp [hinitial]⟩
  | @tail s t hs hst ih =>
      obtain ⟨log, hlog, hnodup, hpromised⟩ := ih
      rcases hstep s t hs hst with ⟨habstract, hpromise⟩ | ⟨i, call, a, hcall, hnone, halone, hpromise⟩
      · rw [habstract, hpromise]
        exact ⟨log, hlog, hnodup, hpromised⟩
      · refine ⟨log ++ [(i, a)], hlog.snoc hcall halone, ?_, fun index answer => ?_⟩
        · rw [List.map_append, List.map_singleton, List.nodup_append]
          refine ⟨hnodup, List.nodup_singleton _, ?_⟩
          rintro j hj _ hmem rfl
          obtain rfl := List.mem_singleton.1 hmem
          obtain ⟨⟨_, answer⟩, hentry, rfl⟩ := List.mem_map.1 hj
          have hsome := (hpromised _ answer).1 hentry
          rw [hnone] at hsome
          exact absurd hsome nofun
        · rw [hpromise, List.mem_append, List.mem_singleton, Prod.mk.injEq, hpromised]
          by_cases hindex : index = i
          · subst hindex
            simp [hnone, eq_comm]
          · simp [hindex]

end Linearization
end HomeCortex
