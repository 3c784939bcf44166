/-
# Depth-first traversal with a stack

A traversal keeps a stack of nodes still to be entered or left, the nodes it has
visited and the nodes it is inside of (`active`).  When the stack is empty the
visited nodes are exactly those reachable from the start (`mem_visited_iff`), and a
traversal that stays within a finite list of nodes ends: every step lowers
`potential`.

The nodes the traversal is inside of are a path, so a node that is to be entered while
it is active lies on a cycle (`cycle_of_active`); and a traversal that never met one
saw no cycle (`acyclic_of_done`), since a node is left when its successors are.
-/

import Mathlib

namespace DepthFirst

variable {α : Type}

/-- The state of a traversal; a node on the stack is entered (`false`) or left. -/
structure State (α : Type) where
  visited : List α
  active : List α
  stack : List (α × Bool)

/-- The traversal from one node. -/
def start (root : α) : State α := ⟨[], [], [(root, false)]⟩

/-- The stack above the leaving of a node that is entered. -/
def entered (next : α → List α) (x : α) (stack : List (α × Bool)) : List (α × Bool) :=
  (next x).reverse.map (fun y => (y, false)) ++ (x, true) :: stack

/-- One step of a traversal that has met no cycle. -/
inductive Step [DecidableEq α] (next : α → List α) : State α → State α → Prop
  | leave (visited active : List α) (stack : List (α × Bool)) (x : α) :
      Step next ⟨visited, active, (x, true) :: stack⟩ ⟨visited, active.erase x, stack⟩
  | skip (visited active : List α) (stack : List (α × Bool)) (x : α) (seen : x ∈ visited) :
      Step next ⟨visited, active, (x, false) :: stack⟩ ⟨visited, active, stack⟩
  | enter (visited active : List α) (stack : List (α × Bool)) (x : α) (unseen : x ∉ visited) :
      Step next ⟨visited, active, (x, false) :: stack⟩
        ⟨x :: visited, x :: active, entered next x stack⟩

/-- `y` is reachable from `x`. -/
def Reach (next : α → List α) : α → α → Prop := Relation.ReflTransGen fun x y => y ∈ next x

/-- What every state of a traversal satisfies. -/
structure Invariant (next : α → List α) (root : α) (s : State α) : Prop where
  visited_reach : ∀ x ∈ s.visited, Reach next root x
  stack_reach : ∀ entry ∈ s.stack, Reach next root entry.1
  closed : ∀ x ∈ s.visited, ∀ y ∈ next x, y ∈ s.visited ∨ (y, false) ∈ s.stack
  root_seen : root ∈ s.visited ∨ (root, false) ∈ s.stack

variable {next : α → List α} {root : α} {s t : State α}

theorem mem_entered {x : α} {stack : List (α × Bool)} {entry : α × Bool} :
    entry ∈ entered next x stack ↔
      (entry.1 ∈ next x ∧ entry.2 = false) ∨ entry = (x, true) ∨ entry ∈ stack := by
  obtain ⟨y, left⟩ := entry
  simp [entered, and_comm, eq_comm]

theorem invariant_start : Invariant next root (start root) where
  visited_reach := nofun
  stack_reach := by
    intro entry hentry
    rw [List.mem_singleton.1 hentry]
    exact .refl
  closed := nofun
  root_seen := Or.inr (List.mem_singleton.2 rfl)

/-- A node that was visited or to be entered still is when the top of the stack is
dealt with, unless it is that top and was not visited. -/
theorem seen_of_tail {visited : List α} {stack : List (α × Bool)} {x y : α} {left : Bool}
    (h : y ∈ visited ∨ (y, false) ∈ (x, left) :: stack)
    (htop : left = false → x ∈ visited) : y ∈ visited ∨ (y, false) ∈ stack := by
  rcases h with h | h
  · exact Or.inl h
  · rcases List.mem_cons.1 h with heq | h
    · obtain ⟨rfl, rfl⟩ := Prod.mk.inj heq
      exact Or.inl (htop rfl)
    · exact Or.inr h

theorem Invariant.step [DecidableEq α] (h : Invariant next root s) (hstep : Step next s t) :
    Invariant next root t := by
  cases hstep with
  | leave visited active stack x =>
      exact ⟨h.visited_reach, fun entry hentry => h.stack_reach _ (List.mem_cons_of_mem _ hentry),
        fun y hy z hz => seen_of_tail (h.closed y hy z hz) nofun, seen_of_tail h.root_seen nofun⟩
  | skip visited active stack x seen =>
      exact ⟨h.visited_reach, fun entry hentry => h.stack_reach _ (List.mem_cons_of_mem _ hentry),
        fun y hy z hz => seen_of_tail (h.closed y hy z hz) fun _ => seen,
        seen_of_tail h.root_seen fun _ => seen⟩
  | enter visited active stack x unseen =>
      have hx : Reach next root x := h.stack_reach _ List.mem_cons_self
      have hkeep : ∀ y, (y ∈ visited ∨ (y, false) ∈ (x, false) :: stack) →
          y ∈ x :: visited ∨ (y, false) ∈ entered next x stack := by
        rintro y (hy | hy)
        · exact Or.inl (List.mem_cons_of_mem _ hy)
        · rcases List.mem_cons.1 hy with heq | hy
          · exact Or.inl (List.mem_cons.2 (Or.inl (Prod.mk.inj heq).1))
          · exact Or.inr (mem_entered.2 (Or.inr (Or.inr hy)))
      refine ⟨fun y hy => ?_, fun entry hentry => ?_, fun y hy z hz => ?_, hkeep _ h.root_seen⟩
      · rcases List.mem_cons.1 hy with rfl | hy
        · exact hx
        · exact h.visited_reach y hy
      · rcases mem_entered.1 hentry with ⟨hnext, -⟩ | rfl | hentry
        · exact hx.tail hnext
        · exact hx
        · exact h.stack_reach _ (List.mem_cons_of_mem _ hentry)
      · rcases List.mem_cons.1 hy with rfl | hy
        · exact Or.inr (mem_entered.2 (Or.inl ⟨hz, rfl⟩))
        · exact hkeep z (h.closed y hy z hz)

theorem Invariant.steps [DecidableEq α] (h : Invariant next root s)
    (hsteps : Relation.ReflTransGen (Step next) s t) : Invariant next root t := by
  induction hsteps with
  | refl => exact h
  | tail _ hstep ih => exact ih.step hstep

/-- **A finished traversal has visited exactly the reachable nodes.** -/
theorem mem_visited_iff [DecidableEq α] (h : Relation.ReflTransGen (Step next) (start root) s)
    (hdone : s.stack = []) {x : α} : x ∈ s.visited ↔ Reach next root x := by
  have hinv := invariant_start.steps h
  have hclosed : ∀ y ∈ s.visited, ∀ z ∈ next y, z ∈ s.visited := fun y hy z hz =>
    (hinv.closed y hy z hz).resolve_right (by simp [hdone])
  constructor
  · exact hinv.visited_reach x
  · intro hreach
    induction hreach with
    | refl => exact hinv.root_seen.resolve_right (by simp [hdone])
    | tail _ hnext ih => exact hclosed _ ih _ hnext

/-! ### Cycles -/

section Cycles

/-- The traversal has left a node. -/
def State.Left (s : State α) (x : α) : Prop := x ∈ s.visited ∧ x ∉ s.active

/-- The node to be entered next is not one the traversal is inside of. -/
def State.Clear (s : State α) : Prop :=
  ∀ x stack, s.stack = (x, false) :: stack → x ∉ s.active

/-- The active nodes are the leavings on the stack, and what stands above a leaving up to
the next one is a successor of its node. -/
inductive Layered (next : α → List α) (root : α) : List (α × Bool) → List α → Prop
  | done : Layered next root [] []
  | pending {stack : List (α × Bool)} {active : List α} {y : α}
      (below : Layered next root stack active)
      (owner : ∀ x ∈ active.head?, y ∈ next x) : Layered next root ((y, false) :: stack) active
  | leaving {stack : List (α × Bool)} {active : List α} {x : α}
      (below : Layered next root stack active)
      (owner : ∀ w ∈ active.head?, x ∈ next w) :
      Layered next root ((x, true) :: stack) (x :: active)

/-- Every successor of a node to be left is left, or stands above it on the stack; `above`
are the nodes above `stack`. -/
def Awaited (next : α → List α) (left : α → Prop) : List α → List (α × Bool) → Prop
  | _, [] => True
  | above, (x, false) :: stack => Awaited next left (x :: above) stack
  | above, (x, true) :: stack =>
      (∀ y ∈ next x, left y ∨ y ∈ above) ∧ Awaited next left (x :: above) stack

/-- What a traversal that met no cycle satisfies beside `Invariant`. -/
structure Inside (next : α → List α) (root : α) (s : State α) : Prop where
  nodup : s.active.Nodup
  active_visited : ∀ x ∈ s.active, x ∈ s.visited
  layered : Layered next root s.stack s.active
  awaited : Awaited next s.Left [] s.stack
  acyclic : ∀ x, s.Left x → Acc (fun y z => y ∈ next z) x

theorem awaited_mono {left left' : α → Prop} (hleft : ∀ y, left y → left' y)
    {stack : List (α × Bool)} : ∀ {above above' : List α},
      (∀ y ∈ above, left' y ∨ y ∈ above') →
      Awaited next left above stack → Awaited next left' above' stack := by
  induction stack with
  | nil => exact fun _ _ => trivial
  | cons entry stack ih =>
      obtain ⟨x, leaving⟩ := entry
      intro above above' habove h
      have hcons : ∀ y ∈ x :: above, left' y ∨ y ∈ x :: above' := by
        intro y hy
        rcases List.mem_cons.1 hy with rfl | hy
        · exact Or.inr List.mem_cons_self
        · exact (habove y hy).imp_right (List.mem_cons_of_mem _)
      cases leaving with
      | false => exact ih hcons h
      | true =>
          refine ⟨fun y hy => ?_, ih hcons h.2⟩
          rcases h.1 y hy with hy | hy
          · exact Or.inl (hleft y hy)
          · exact habove y hy

/-- Pending entries only add to what stands above. -/
theorem awaited_pending {left : α → Prop} {stack : List (α × Bool)} {ys above : List α} :
    Awaited next left above (ys.map (fun y => (y, false)) ++ stack) ↔
      Awaited next left (ys.reverse ++ above) stack := by
  induction ys generalizing above with
  | nil => rfl
  | cons y ys ih =>
      rw [List.reverse_cons, List.append_assoc]
      exact ih

theorem layered_pending {stack : List (α × Bool)} {active ys : List α}
    (below : Layered next root stack active) (owner : ∀ y ∈ ys, ∀ x ∈ active.head?, y ∈ next x) :
    Layered next root (ys.map (fun y => (y, false)) ++ stack) active := by
  induction ys with
  | nil => exact below
  | cons y ys ih =>
      exact .pending (ih fun z hz => owner z (List.mem_cons_of_mem _ hz))
        (owner y List.mem_cons_self)

theorem inside_start : Inside next root (start root) where
  nodup := List.nodup_nil
  active_visited := nofun
  layered := .pending .done nofun
  awaited := trivial
  acyclic := fun _ h => nomatch h.1

theorem Inside.step [DecidableEq α] (h : Inside next root s) (hclear : s.Clear)
    (hstep : Step next s t) : Inside next root t := by
  cases hstep with
  | skip visited active stack x seen =>
      obtain ⟨nodup, active_visited, layered, awaited, acyclic⟩ := h
      cases layered with
      | pending below owner =>
          have hx : State.Left ⟨visited, active, stack⟩ x := ⟨seen, hclear x stack rfl⟩
          refine ⟨nodup, active_visited, below, ?_, acyclic⟩
          refine awaited_mono (fun _ hy => hy) (fun y hy => ?_) awaited
          rw [List.mem_singleton.1 hy]
          exact Or.inl hx
  | leave visited active stack x =>
      obtain ⟨nodup, active_visited, layered, awaited, acyclic⟩ := h
      cases layered with
      | @leaving _ active _ below owner =>
          obtain ⟨hfresh, hrest⟩ := List.nodup_cons.1 nodup
          rw [List.erase_cons_head]
          have hx : State.Left ⟨visited, active, stack⟩ x :=
            ⟨active_visited x List.mem_cons_self, hfresh⟩
          have hleft : ∀ y, State.Left ⟨visited, x :: active, (x, true) :: stack⟩ y →
              State.Left ⟨visited, active, stack⟩ y := fun y hy =>
            ⟨hy.1, fun hactive => hy.2 (List.mem_cons_of_mem _ hactive)⟩
          refine ⟨hrest, fun y hy => active_visited y (List.mem_cons_of_mem _ hy), below, ?_, ?_⟩
          · refine awaited_mono hleft (fun y hy => ?_) awaited.2
            rw [List.mem_singleton.1 hy]
            exact Or.inl hx
          · intro y hy
            by_cases heq : y = x
            · subst heq
              -- every successor was left before
              exact Acc.intro _ fun z hz =>
                acyclic z ((awaited.1 z hz).resolve_right List.not_mem_nil)
            · exact acyclic y ⟨hy.1, fun hactive => hy.2 ((List.mem_cons.1 hactive).resolve_left heq)⟩
  | enter visited active stack x unseen =>
      obtain ⟨nodup, active_visited, layered, awaited, acyclic⟩ := h
      cases layered with
      | pending below owner =>
          have hleft : ∀ y, State.Left ⟨visited, active, (x, false) :: stack⟩ y →
              State.Left ⟨x :: visited, x :: active, entered next x stack⟩ y := by
            rintro y ⟨hvisited, hactive⟩
            refine ⟨List.mem_cons_of_mem _ hvisited, fun hy => ?_⟩
            rcases List.mem_cons.1 hy with rfl | hy
            · exact unseen hvisited
            · exact hactive hy
          refine ⟨List.nodup_cons.2 ⟨fun hx => unseen (active_visited x hx), nodup⟩, ?_, ?_, ?_, ?_⟩
          · intro y hy
            rcases List.mem_cons.1 hy with rfl | hy
            · exact List.mem_cons_self
            · exact List.mem_cons_of_mem _ (active_visited y hy)
          · refine layered_pending (.leaving below owner) fun y hy w hw => ?_
            obtain rfl : x = w := by simpa using hw
            exact List.mem_reverse.1 hy
          · refine awaited_pending.2 ⟨fun y hy => ?_, ?_⟩
            · exact Or.inr (List.mem_append_left _ (by simpa using hy))
            · refine awaited_mono hleft (fun y hy => Or.inr ?_) awaited
              rw [List.mem_singleton.1 hy]
              exact List.mem_cons_self
          · rintro y ⟨hvisited, hactive⟩
            rcases List.mem_cons.1 hvisited with rfl | hvisited
            · exact absurd List.mem_cons_self hactive
            · exact acyclic y ⟨hvisited, fun hy => hactive (List.mem_cons_of_mem _ hy)⟩

/-- The innermost active node is reached from every active one. -/
theorem layered_path {stack : List (α × Bool)} {active : List α}
    (h : Layered next root stack active) :
    ∀ x ∈ active.head?, ∀ y ∈ active, Reach next y x := by
  induction h with
  | done => exact nofun
  | pending _ _ ih => exact ih
  | @leaving stack active x below owner ih =>
      intro w hw y hy
      obtain rfl : x = w := by simpa using hw
      rcases List.mem_cons.1 hy with rfl | hy
      · exact .refl
      · cases active with
        | nil => cases hy
        | cons v active => exact (ih v rfl y hy).tail (owner v rfl)

/-- **A node that is entered again from inside lies on a cycle.** -/
theorem cycle_of_active (h : Inside next root s) {x : α} {stack : List (α × Bool)}
    (htop : s.stack = (x, false) :: stack) (hactive : x ∈ s.active) :
    Relation.TransGen (fun x y => y ∈ next x) x x := by
  have hlayered := h.layered
  rw [htop] at hlayered
  cases hlayered with
  | pending below owner =>
      cases hpath : s.active with
      | nil =>
          rw [hpath] at hactive
          cases hactive
      | cons w active =>
          rw [hpath] at hactive below owner
          exact Relation.TransGen.tail' (layered_path below w rfl x hactive) (owner w rfl)

/-- A node below which the successors are well-founded reaches no cycle. -/
theorem not_cycle_of_acc {x : α} (h : Acc (fun y z => y ∈ next z) x) :
    ∀ y, Reach next x y → ¬ Relation.TransGen (fun x y => y ∈ next x) y y := by
  intro y hreach
  have hy : Acc (Relation.TransGen fun y z => y ∈ next z) y := by
    refine Acc.transGen ?_
    induction hreach with
    | refl => exact h
    | tail _ hnext ih => exact ih.inv hnext
  induction hy with
  | intro z _ ih =>
      exact fun hcycle => ih z (Relation.transGen_swap.2 hcycle) hreach hcycle

variable [DecidableEq α]

/-- One step of a traversal that checks for cycles first. -/
def ClearStep (next : α → List α) (s t : State α) : Prop := s.Clear ∧ Step next s t

theorem inside_of_run (h : Relation.ReflTransGen (ClearStep next) (start root) s) :
    Inside next root s := by
  induction h with
  | refl => exact inside_start
  | tail _ hstep ih => exact ih.step hstep.1 hstep.2

theorem run_of_clearRun (h : Relation.ReflTransGen (ClearStep next) s t) :
    Relation.ReflTransGen (Step next) s t := by
  induction h with
  | refl => exact .refl
  | tail _ hstep ih => exact ih.tail hstep.2

/-- **A finished traversal that met no active node has seen no cycle.** -/
theorem acyclic_of_done (h : Relation.ReflTransGen (ClearStep next) (start root) s)
    (hdone : s.stack = []) :
    ∀ x, Reach next root x → ¬ Relation.TransGen (fun x y => y ∈ next x) x x := by
  have hinside := inside_of_run h
  have hactive : s.active = [] := by
    have hlayered := hinside.layered
    rw [hdone] at hlayered
    generalize s.active = active at hlayered
    cases hlayered
    rfl
  have hroot : s.Left root := by
    refine ⟨(mem_visited_iff (run_of_clearRun h) hdone).2 .refl, ?_⟩
    rw [hactive]
    exact List.not_mem_nil
  exact not_cycle_of_acc (hinside.acyclic root hroot)

end Cycles

/-! ### Termination -/

section Termination

variable [DecidableEq α]

/-- The nodes of a finite list that are not visited, weighted by what one visit puts on
the stack, and the stack. -/
def potential (nodes : List α) (width : Nat) (s : State α) : Nat :=
  s.stack.length + (width + 1) * (nodes.filter fun x => x ∉ s.visited).length

/-- One node fewer is unvisited. -/
theorem unvisited_lt {nodes visited : List α} {x : α} (hx : x ∈ nodes) (hunseen : x ∉ visited) :
    (nodes.filter fun y => y ∉ x :: visited).length <
      (nodes.filter fun y => y ∉ visited).length := by
  have hsplit : (nodes.filter fun y => y ∉ x :: visited)
      = (nodes.filter fun y => y ∉ visited).filter fun y => y ≠ x := by
    rw [List.filter_filter]
    refine List.filter_congr fun y _ => ?_
    simp [not_or]
  rw [hsplit]
  refine List.length_filter_lt_length_iff_exists.2 ⟨x, ?_, by simp⟩
  simpa using ⟨hx, hunseen⟩

/-- **Every step lowers the potential**, as long as the nodes on the stack are in the
list and no node has more successors than `width`. -/
theorem potential_lt {nodes : List α} {width : Nat} (hstep : Step next s t)
    (hnodes : ∀ entry ∈ s.stack, entry.1 ∈ nodes)
    (hwidth : ∀ x, t.visited = x :: s.visited → (next x).length ≤ width) :
    potential nodes width t < potential nodes width s := by
  cases hstep with
  | leave visited active stack x => simp [potential]
  | skip visited active stack x seen => simp [potential]
  | enter visited active stack x unseen =>
      have hx : x ∈ nodes := hnodes _ List.mem_cons_self
      have hlt := unvisited_lt hx unseen
      have hmul := Nat.mul_le_mul_left (width + 1) (Nat.succ_le_of_lt hlt)
      rw [Nat.mul_succ] at hmul
      have hlength := hwidth x rfl
      simp only [potential, entered, List.length_append, List.length_map, List.length_reverse,
        List.length_cons]
      omega

/-- The nodes on the stack stay in a list that has the successors of its nodes. -/
theorem stack_subset {nodes : List α} (hstep : Step next s t)
    (hclosed : ∀ x ∈ nodes, ∀ y ∈ next x, y ∈ nodes)
    (hnodes : ∀ entry ∈ s.stack, entry.1 ∈ nodes) : ∀ entry ∈ t.stack, entry.1 ∈ nodes := by
  cases hstep with
  | leave visited active stack x =>
      exact fun entry hentry => hnodes entry (List.mem_cons_of_mem _ hentry)
  | skip visited active stack x seen =>
      exact fun entry hentry => hnodes entry (List.mem_cons_of_mem _ hentry)
  | enter visited active stack x unseen =>
      intro entry hentry
      have hx : x ∈ nodes := hnodes _ List.mem_cons_self
      rcases mem_entered.1 hentry with ⟨hnext, -⟩ | rfl | hentry
      · exact hclosed x hx _ hnext
      · exact hx
      · exact hnodes entry (List.mem_cons_of_mem _ hentry)

end Termination

end DepthFirst
