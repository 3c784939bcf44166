/-
# Comparing stored dates and datetimes

The executor compares the stored texts; the contract reads them.  Filters, `latest`
and `earliest`, `argmax` and `argmin` and the comparison of two records are
chronological on a set of texts exactly when the texts sort as what they denote.
Dates always do; datetimes do not when their offsets, or their spellings of one
instant, differ.
-/

import HomeCortex.Facts.Engine
import HomeCortex.Semantic.TemporalTexts

namespace HomeCortex

/-! ### Selecting and sorting -/

section Selecting

variable {α β : Type} [LinearOrder β]

/-- `min` with a total order: an element of least rank. -/
theorem firstBest_rank {better : α → α → Except PyError Bool} {rank : α → β} {xs : List α}
    (hbetter : ∀ a ∈ xs, ∀ b ∈ xs, better a b = .ok (decide (rank a < rank b))) (hxs : xs ≠ []) :
    ∃ best, firstBest better xs = .ok (some best) ∧ best ∈ xs ∧
      ∀ x ∈ xs, rank best ≤ rank x := by
  cases xs with
  | nil => exact absurd rfl hxs
  | cons x xs =>
      suffices h : ∀ (rest : List α) (best : α), best ∈ x :: xs → (∀ y ∈ rest, y ∈ x :: xs) →
          ∃ final, rest.foldlM (fun best y => do return if ← better y best then y else best) best
              = .ok final ∧ final ∈ x :: xs ∧ rank final ≤ rank best ∧
            ∀ y ∈ rest, rank final ≤ rank y by
        obtain ⟨final, hfold, hmem, hle, hall⟩ := h xs x List.mem_cons_self fun y hy =>
          List.mem_cons_of_mem _ hy
        refine ⟨final, ?_, hmem, ?_⟩
        · simp only [firstBest, hfold]
          rfl
        · intro y hy
          rcases List.mem_cons.1 hy with rfl | hy
          · exact hle
          · exact hall y hy
      intro rest
      induction rest with
      | nil => exact fun best hbest _ => ⟨best, rfl, hbest, le_rfl, fun _ hy => by cases hy⟩
      | cons y rest ih =>
          intro best hbest hrest
          have hy := hrest y List.mem_cons_self
          have hnext : (if decide (rank y < rank best) = true then y else best) ∈ x :: xs := by
            split
            · exact hy
            · exact hbest
          obtain ⟨final, hfold, hmem, hle, hall⟩ := ih _ hnext fun z hz =>
            hrest z (List.mem_cons_of_mem _ hz)
          refine ⟨final, ?_, hmem, ?_, ?_⟩
          · rw [List.foldlM_cons, hbetter y hy best hbest]
            exact hfold
          · split at hle
            case isTrue hlt => exact hle.trans (of_decide_eq_true hlt).le
            case isFalse => exact hle
          · intro z hz
            rcases List.mem_cons.1 hz with rfl | hz
            · split at hle
              case isTrue => exact hle
              case isFalse hge =>
                exact hle.trans (not_lt.1 (by simpa using hge))
            · exact hall z hz

end Selecting

section Sorting

variable {α : Type} {key : α → Json} {text : α → String}

theorem pyLt_str (a b : String) : (Json.str a).pyLt (.str b) = .ok (decide (a < b)) := by
  unfold Json.pyLt
  rw [Json.pyOrder]
  change Except.ok (some (compare a b) == some Ordering.lt) = _
  congr 1
  rw [Bool.eq_iff_iff, beq_iff_eq, Option.some.injEq, decide_eq_true_eq, compare_lt_iff_lt]

theorem pyLe_str (a b : String) : (Json.str a).pyLe (.str b) = .ok (decide (a ≤ b)) := by
  unfold Json.pyLe
  rw [Json.pyOrder]
  change Except.ok (some (compare a b) == some Ordering.lt || some (compare a b) == some .eq) = _
  congr 1
  rw [Bool.eq_iff_iff, Bool.or_eq_true, beq_iff_eq, beq_iff_eq, Option.some.injEq,
    Option.some.injEq, decide_eq_true_eq, compare_lt_iff_lt, compare_eq_iff_eq, le_iff_lt_or_eq]

/-- Inserting keeps what is there and its order. -/
theorem insertSorted_text {x : α} {xs : List α} (hx : key x = .str (text x))
    (hxs : ∀ y ∈ xs, key y = .str (text y)) (hsorted : xs.Pairwise fun a b => text a ≤ text b) :
    ∃ ys, insertSorted key x xs = .ok ys ∧ ys.Perm (x :: xs) ∧
      ys.Pairwise fun a b => text a ≤ text b := by
  induction xs with
  | nil => exact ⟨[x], rfl, .refl _, List.pairwise_singleton _ _⟩
  | cons y xs ih =>
      obtain ⟨hle, hrest⟩ := List.pairwise_cons.1 hsorted
      obtain ⟨ys, hys, hperm, hpairwise⟩ := ih (fun z hz => hxs z (List.mem_cons_of_mem _ hz)) hrest
      unfold insertSorted
      rw [hx, hxs y List.mem_cons_self, pyLt_str]
      by_cases hlt : text x < text y
      · refine ⟨x :: y :: xs, ?_, .refl _, List.pairwise_cons.2 ⟨?_, hsorted⟩⟩
        · rw [decide_eq_true hlt]
          rfl
        · intro z hz
          rcases List.mem_cons.1 hz with rfl | hz
          · exact hlt.le
          · exact hlt.le.trans (hle z hz)
      · refine ⟨y :: ys, ?_, (hperm.cons y).trans (.swap x y xs), List.pairwise_cons.2 ⟨?_, hpairwise⟩⟩
        · rw [decide_eq_false hlt, hys]
          rfl
        · intro z hz
          rcases List.mem_cons.1 (hperm.mem_iff.1 hz) with rfl | hz
          · exact not_lt.1 hlt
          · exact hle z hz

theorem pySort_text {xs : List α} (hxs : ∀ x ∈ xs, key x = .str (text x)) :
    ∃ ys, pySort key xs = .ok ys ∧ ys.Perm xs ∧ ys.Pairwise fun a b => text a ≤ text b := by
  suffices h : ∀ (rest sorted : List α), (∀ x ∈ rest, key x = .str (text x)) →
      (∀ x ∈ sorted, key x = .str (text x)) → (sorted.Pairwise fun a b => text a ≤ text b) →
      ∃ ys, rest.foldlM (fun sorted x => insertSorted key x sorted) sorted = .ok ys ∧
        ys.Perm (rest ++ sorted) ∧ ys.Pairwise fun a b => text a ≤ text b by
    obtain ⟨ys, hys, hperm, hpairwise⟩ := h xs [] hxs (fun _ hx => by cases hx) List.Pairwise.nil
    exact ⟨ys, hys, by simpa using hperm, hpairwise⟩
  intro rest
  induction rest with
  | nil => exact fun sorted _ _ hpairwise => ⟨sorted, rfl, .refl _, hpairwise⟩
  | cons x rest ih =>
      intro sorted hrest hsorted hpairwise
      obtain ⟨next, hnext, hperm, hpairwise⟩ :=
        insertSorted_text (hrest x List.mem_cons_self) hsorted hpairwise
      have hkeys : ∀ y ∈ next, key y = .str (text y) := by
        intro y hy
        rcases List.mem_cons.1 (hperm.mem_iff.1 hy) with rfl | hy
        · exact hrest _ List.mem_cons_self
        · exact hsorted y hy
      obtain ⟨ys, hys, hperm', hpairwise'⟩ := ih next (fun y hy => hrest y (List.mem_cons_of_mem _ hy))
        hkeys hpairwise
      refine ⟨ys, ?_, hperm'.trans ?_, hpairwise'⟩
      · rw [List.foldlM_cons, hnext]
        exact hys
      · exact (hperm.append_left rest).trans List.perm_middle

/-- **A sort by texts**, in either direction. -/
theorem pySortBy_text (reverse : Bool) {xs : List α} (hxs : ∀ x ∈ xs, key x = .str (text x)) :
    ∃ ys, pySortBy key reverse xs = .ok ys ∧ ys.Perm xs ∧
      ys.Pairwise fun a b => if reverse then text b ≤ text a else text a ≤ text b := by
  unfold pySortBy
  cases reverse with
  | false =>
      obtain ⟨ys, hys, hperm, hpairwise⟩ := pySort_text hxs
      exact ⟨ys, hys, hperm, hpairwise⟩
  | true =>
      obtain ⟨ys, hys, hperm, hpairwise⟩ := @pySort_text _ key text xs.reverse fun x hx =>
        hxs x (List.mem_reverse.1 hx)
      refine ⟨ys.reverse, ?_, ?_, List.pairwise_reverse.2 hpairwise⟩
      · rw [if_pos rfl, hys]
        rfl
      · exact (List.reverse_perm ys).trans (hperm.trans (List.reverse_perm xs))

end Sorting

/-! ### Kinds -/

/-- Values of one kind are a field of this kind. -/
theorem inferFieldKind_of_forall {values : List Json} {kind : ValueKind} (hvalues : values ≠ [])
    (hkind : ∀ value ∈ values, value ≠ .null ∧ inferValueKind value = kind)
    (hnumeric : numericKinds.contains kind = false) : inferFieldKind values = kind := by
  have hkept : values.filter (· ≠ .null) = values :=
    List.filter_eq_self.2 fun value hvalue => by simpa using (hkind value hvalue).1
  have hkinds : values.map inferValueKind = List.replicate values.length kind :=
    List.eq_replicate_iff.2 ⟨by simp, by
      rintro _ hmem
      obtain ⟨value, hvalue, rfl⟩ := List.mem_map.1 hmem
      exact (hkind value hvalue).2⟩
  unfold inferFieldKind
  dsimp only
  rw [hkept, hkinds, List.replicate_dedup (by
    rw [ne_eq, List.length_eq_zero_iff]
    exact hvalues)]
  simp only [List.isEmpty_cons, Bool.false_eq_true, if_false, List.all_cons, hnumeric,
    Bool.false_and]

/-! ### Texts in the order of what they denote -/

/-- What an accepted text of a temporal type denotes: the ordinal of a date, or an
instant. -/
def AtomicKind.denoted (kind : AtomicKind) (text : String) : Int :=
  match kind with
  | .date => ((dateFromIsoformat text).map fun date => (date.toordinal : Int)).getD 0
  | _ => ((datetimeFromIsoformat text).map PyDatetime.utcMicros).getD 0

/-- The texts sort as what they denote. -/
def TextsInOrder (kind : AtomicKind) (texts : List String) : Prop :=
  ∀ a ∈ texts, ∀ b ∈ texts, a < b ↔ kind.denoted a < kind.denoted b

namespace TextsInOrder

variable {kind : AtomicKind} {texts : List String} {a b : String}

theorem le_iff (h : TextsInOrder kind texts) (ha : a ∈ texts) (hb : b ∈ texts) :
    a ≤ b ↔ kind.denoted a ≤ kind.denoted b := by
  rw [← not_lt, ← not_lt, h b hb a ha]

theorem eq_iff (h : TextsInOrder kind texts) (ha : a ∈ texts) (hb : b ∈ texts) :
    a = b ↔ kind.denoted a = kind.denoted b := by
  rw [le_antisymm_iff, le_antisymm_iff, h.le_iff ha hb, h.le_iff hb ha]

/-- **Dates always are in order.** -/
theorem of_dates (haccepts : ∀ text ∈ texts, AtomicKind.date.accepts (.str text) = true) :
    TextsInOrder .date texts := by
  intro a ha b hb
  have hdate : ∀ text ∈ texts, isDateText text.toList = true ∧
      ∃ date, dateFromIsoformat text = some date := by
    intro text htext
    have h := haccepts text htext
    unfold AtomicKind.accepts at h
    rw [Bool.and_eq_true, Option.isSome_iff_exists] at h
    exact h
  obtain ⟨hform, date, hread⟩ := hdate a ha
  obtain ⟨hform', date', hread'⟩ := hdate b hb
  rw [isDateText_lt_iff hform hform' hread hread']
  unfold AtomicKind.denoted
  rw [hread, hread']
  exact Int.ofNat_lt.symm

end TextsInOrder

/-! ### Filters -/

theorem evaluatePredicate_lt (a b : String) :
    evaluatePredicate .lt (.str a) (.scalar (.str b)) = decide (a < b) := by
  simp only [evaluatePredicate, Operand.compares, pyLt_str]
  rfl

theorem evaluatePredicate_lte (a b : String) :
    evaluatePredicate .lte (.str a) (.scalar (.str b)) = decide (a ≤ b) := by
  simp only [evaluatePredicate, Operand.compares, pyLe_str]
  rfl

theorem evaluatePredicate_gt (a b : String) :
    evaluatePredicate .gt (.str a) (.scalar (.str b)) = decide (b < a) := by
  simp only [evaluatePredicate, Operand.compares, pyLt_str]
  rfl

theorem evaluatePredicate_gte (a b : String) :
    evaluatePredicate .gte (.str a) (.scalar (.str b)) = decide (b ≤ a) := by
  simp only [evaluatePredicate, Operand.compares, pyLe_str]
  rfl

theorem evaluatePredicate_dateRange (a low high : String) :
    evaluatePredicate .dateRange (.str a) (.tuple [.str low, .str high])
      = (decide (low ≤ a) && decide (a < high)) := by
  simp only [evaluatePredicate, Operand.spans, pyLe_str, pyLt_str]
  rfl

/-! ### Operations -/

namespace HouseholdFactEngine

variable (engine : HouseholdFactEngine) {request : SemanticFactRequest} {now : Clock}
  {evidence : FactEvidence} {records : List Fields} {text : Fields → String}

/-- The operations that select by time. -/
def isChronological (operation : FactOperation) : Bool :=
  [.latest, .earliest, .argmax, .argmin].contains operation

/-- The records are read as texts of `texts`. -/
def ReadsTexts (request : SemanticFactRequest) (evidence : FactEvidence) (records : List Fields)
    (text : Fields → String) : Prop :=
  ∀ record ∈ records, engine.recordValue record request evidence = .ok (.inr (.str (text record)))

theorem normalizedRecords_texts (h : engine.ReadsTexts request evidence records text) :
    engine.normalizedRecords request evidence records
      = .ok (.inr (records.map fun record => (.str (text record), record))) := by
  induction records with
  | nil => rfl
  | cons record records ih =>
      unfold normalizedRecords
      rw [h record List.mem_cons_self, ih fun other hother => h other (List.mem_cons_of_mem _ hother)]
      rfl

/-- The operator runs on values of one temporal kind. -/
theorem computed_chronological {items : List (Json × Fields)} {kind : AtomicKind}
    (hkind : kind = .date ∨ kind = .datetime) (hoperation : isChronological request.operation = true)
    (hproperty : request.property.isSome = true) (hitems : items ≠ [])
    (haccepts : ∀ item ∈ items, ∃ text, item.1 = .str text ∧ kind.accepts (.str text) = true) :
    computed request now items = executeOperator request.operation
      (operatorInput request now (items.map normalizedFields)) := by
  have hinfer : inferFieldKind (items.map Prod.fst) = kind.kind := by
    refine inferFieldKind_of_forall (by simpa using hitems) ?_ (by
      rcases hkind with rfl | rfl <;> rfl)
    intro value hvalue
    obtain ⟨item, hitem, rfl⟩ := List.mem_map.1 hvalue
    obtain ⟨text, htext, hok⟩ := haccepts item hitem
    rw [htext]
    exact ⟨by simp, inferValueKind_accepts hkind hok⟩
  have hvalid : ∀ operation, isChronological operation = true → ∀ parameters,
      operation.validate (some "value") kind.kind
        (if ordersByTime operation then some "value" else none) kind.kind parameters = .ok () := by
    intro operation hoperation parameters
    unfold isChronological at hoperation
    simp only [List.contains_iff_mem, List.mem_cons, List.not_mem_nil, or_false] at hoperation
    rcases hkind with rfl | rfl <;> rcases hoperation with rfl | rfl | rfl | rfl <;> rfl
  unfold computed
  simp only [hproperty, if_true, hinfer, hvalid _ hoperation]
  rfl

/-- An item that holds the text of its record. -/
theorem mem_textItems {item : Json × Fields}
    (h : item ∈ records.map fun record => (Json.str (text record), record)) :
    item.2 ∈ records ∧ item.1 = .str (text item.2) := by
  obtain ⟨record, hrecord, rfl⟩ := List.mem_map.1 h
  exact ⟨hrecord, rfl⟩

/-- The values of the records, when there are any. -/
theorem transform_texts (h : engine.ReadsTexts request evidence records text)
    (hrecords : records ≠ []) {items : List (Json × Fields)} {value : Json}
    (hitems : (if ordersByTime request.operation then
        pySortBy Prod.fst (request.operation == .latest)
          (records.map fun record => (Json.str (text record), record))
      else .ok (records.map fun record => (Json.str (text record), record))) = .ok items)
    (hvalue : computed request now items = .ok value) :
    engine.transform request now evidence records
      = .ok (engine.operatorResult request evidence records value) := by
  cases records with
  | nil => exact absurd rfl hrecords
  | cons record records =>
      unfold transform
      rw [engine.normalizedRecords_texts h]
      rw [List.map_cons] at hitems ⊢
      simp only [bind, Except.bind]
      split at hitems
      case isTrue horders =>
        simp only [if_pos horders, hitems, hvalue, pure, Except.pure]
      case isFalse horders =>
        obtain rfl := Except.ok.inj hitems
        simp only [if_neg horders, hvalue, pure, Except.pure]

/-- **`latest` and `earliest`** find the last, or first, text. -/
theorem transform_ordered {kind : AtomicKind} (hkind : kind = .date ∨ kind = .datetime)
    (hoperation : request.operation = .latest ∨ request.operation = .earliest)
    (hproperty : request.property.isSome = true) (hrecords : records ≠ [])
    (h : engine.ReadsTexts request evidence records text)
    (haccepts : ∀ record ∈ records, kind.accepts (.str (text record)) = true) :
    ∃ result, engine.transform request now evidence records = .ok result ∧
      result.status = .found ∧ ∃ chosen ∈ records, result.value = .json (.str (text chosen)) ∧
      ∀ record ∈ records, if request.operation = .latest then text record ≤ text chosen
        else text chosen ≤ text record := by
  have horders : ordersByTime request.operation = true := by
    rcases hoperation with hop | hop <;> rw [hop] <;> rfl
  have hchronological : isChronological request.operation = true := by
    rcases hoperation with hop | hop <;> rw [hop] <;> rfl
  obtain ⟨sorted, hsorted, hperm, hpairwise⟩ :=
    @pySortBy_text _ Prod.fst (fun item : Json × Fields => text item.2)
      (request.operation == .latest) (records.map fun record => (Json.str (text record), record))
      fun item hitem => (mem_textItems hitem).2
  cases sorted with
  | nil => exact absurd (List.map_eq_nil_iff.1 hperm.nil_eq.symm) hrecords
  | cons first rest =>
      obtain ⟨hmem, hfirst⟩ := mem_textItems (hperm.mem_iff.1 List.mem_cons_self)
      have hcomputed : computed request now (first :: rest) = .ok (.str (text first.2)) := by
        rw [computed_chronological hkind hchronological hproperty (by simp) fun item hitem => by
          obtain ⟨hin, htext⟩ := mem_textItems (hperm.mem_iff.1 hitem)
          exact ⟨text item.2, htext, haccepts item.2 hin⟩]
        have hexecute : ∀ values, executeOperator request.operation values = firstOperator values := by
          intro values
          rcases hoperation with hop | hop <;> rw [hop] <;> rfl
        rw [hexecute]
        unfold firstOperator operatorInput
        simp only [hproperty, if_true, List.map_cons]
        unfold projectField normalizedFields
        rw [hfirst]
        rfl
      refine ⟨_, engine.transform_texts h hrecords (by rw [if_pos horders]; exact hsorted) hcomputed,
        rfl, first.2, hmem, rfl, ?_⟩
      intro record hrecord
      have hitem : (Json.str (text record), record) ∈ first :: rest :=
        hperm.mem_iff.2 (List.mem_map_of_mem hrecord)
      have hle : (Json.str (text record), record) = first ∨
          (if (request.operation == .latest) = true then text record ≤ text first.2
            else text first.2 ≤ text record) := by
        rcases List.mem_cons.1 hitem with heq | hrest
        · exact .inl heq
        · exact .inr ((List.pairwise_cons.1 hpairwise).1 _ hrest)
      simp only [beq_iff_eq] at hle
      rcases hle with rfl | hle
      · split <;> exact le_rfl
      · exact hle

/-- The first item of the last, or first, text among records with a text. -/
theorem argExtreme_texts (minimum : Bool) (values : OperatorInput) {items : List Fields}
    {text : Fields → String} (hrecords : values.records = items)
    (hfield : values.field = some "value") (hitems : items ≠ [])
    (hvalue : ∀ item ∈ items, item.getD "value" = .str (text item)) :
    ∃ best ∈ items, argExtreme minimum values = .ok (.obj best) ∧
      ∀ item ∈ items, if minimum then text best ≤ text item else text item ≤ text best := by
  subst hrecords
  have hkept : values.records.filter (fun record => record.getD "value" ≠ .null)
      = values.records := by
    refine List.filter_eq_self.2 fun item hitem => ?_
    rw [hvalue item hitem]
    rfl
  have hnonempty : values.records.isEmpty = false := by simpa using hitems
  unfold argExtreme
  rw [hfield]
  simp only [hkept, hnonempty]
  cases minimum with
  | true =>
      obtain ⟨best, hbest, hmem, hall⟩ := @firstBest_rank _ _ _
        (fun a b : Fields => (a.getD "value").pyLt (b.getD "value")) text values.records
        (fun a ha b hb => by rw [hvalue a ha, hvalue b hb, pyLt_str]) hitems
      refine ⟨best, hmem, ?_, hall⟩
      simp only [if_true, hbest]
      rfl
  | false =>
      obtain ⟨best, hbest, hmem, hall⟩ := @firstBest_rank _ _ _
        (fun a b : Fields => (b.getD "value").pyLt (a.getD "value"))
        (fun item => OrderDual.toDual (text item)) values.records
        (fun a ha b hb => by rw [hvalue a ha, hvalue b hb, pyLt_str]; rfl) hitems
      refine ⟨best, hmem, ?_, hall⟩
      simp only [Bool.false_eq_true, if_false, hbest]
      rfl

/-- **`argmax` and `argmin`** find a record of the last, or first, text. -/
theorem transform_extreme {kind : AtomicKind} (hkind : kind = .date ∨ kind = .datetime)
    (hoperation : request.operation = .argmax ∨ request.operation = .argmin)
    (hproperty : request.property.isSome = true) (hrecords : records ≠ [])
    (h : engine.ReadsTexts request evidence records text)
    (haccepts : ∀ record ∈ records, kind.accepts (.str (text record)) = true) :
    ∃ chosen ∈ records, engine.transform request now evidence records
        = .ok (engine.operatorResult request evidence records (.obj (normalizedFields
            (.str (text chosen), chosen)))) ∧
      ∀ record ∈ records, if request.operation = .argmax then text record ≤ text chosen
        else text chosen ≤ text record := by
  have horders : ordersByTime request.operation = false := by
    rcases hoperation with hop | hop <;> rw [hop] <;> rfl
  have hchronological : isChronological request.operation = true := by
    rcases hoperation with hop | hop <;> rw [hop] <;> rfl
  set items := records.map fun record => (Json.str (text record), record) with hitems
  set values := operatorInput request now (items.map normalizedFields) with hvalues
  have hfield : values.field = some "value" := by
    rw [hvalues]
    unfold operatorInput
    rw [hproperty]
    rfl
  let entityText (item : Fields) : String := text ((item.getD "entity").asObject?.getD [])
  have hvalue : ∀ item ∈ items.map normalizedFields,
      item.getD "value" = .str (entityText item) ∧ ∃ record ∈ records,
        item = normalizedFields (.str (text record), record) ∧ entityText item = text record := by
    intro item hitem
    rw [hitems, List.map_map] at hitem
    obtain ⟨record, hrecord, rfl⟩ := List.mem_map.1 hitem
    exact ⟨rfl, record, hrecord, rfl, rfl⟩
  obtain ⟨best, hmem, hbest, hall⟩ := @argExtreme_texts (request.operation == .argmin) values
    (items.map normalizedFields) entityText rfl hfield
    (by simpa [hitems] using hrecords) fun item hitem => (hvalue item hitem).1
  obtain ⟨-, chosen, hchosen, rfl, htext⟩ := hvalue best hmem
  refine ⟨chosen, hchosen, @transform_texts engine _ _ _ _ _ h hrecords items _
    (by rw [horders]; rfl) ?_, ?_⟩
  · rw [computed_chronological hkind hchronological hproperty (by simpa [hitems] using hrecords)
      fun item hitem => by
        obtain ⟨hin, htext⟩ := mem_textItems hitem
        exact ⟨text item.2, htext, haccepts item.2 hin⟩]
    have hexecute : ∀ values, executeOperator request.operation values
        = argExtreme (request.operation == .argmin) values := by
      intro values
      rcases hoperation with hop | hop <;> rw [hop] <;> rfl
    rw [hexecute]
    exact hbest
  · intro record hrecord
    have hle := hall (normalizedFields (.str (text record), record)) (by
      rw [hitems, List.map_map]
      exact List.mem_map_of_mem hrecord)
    rcases hoperation with hop | hop <;> rw [hop] at hle ⊢ <;> exact hle

theorem operatorResult_text (chosen : String) :
    (engine.operatorResult request evidence records (.str chosen)).status = .found ∧
      (engine.operatorResult request evidence records (.str chosen)).value
        = .json (.str chosen) := by
  exact ⟨rfl, rfl⟩

theorem operatorResult_record (hother : request.other = none) (value : Json) (chosen : Fields) :
    (engine.operatorResult request evidence records (.obj (normalizedFields (value, chosen)))).status
        = .found ∧
      (engine.operatorResult request evidence records
        (.obj (normalizedFields (value, chosen)))).value = .json (.obj chosen) := by
  unfold operatorResult
  rw [hother]
  exact ⟨rfl, rfl⟩

/-- The record that is not the selected one of two. -/
theorem otherRecord (left right : Entity) (hdistinct : left = right ∨ left.id ≠ right.id)
    {selected : Fields} (hselected : selected ∈ [left.toFields, right.toFields]) :
    selected = left.toFields ∧ (([left.toFields, right.toFields].find? fun record =>
        !(record.getD "id").pyEq (selected.getD "id")).getD left.toFields) = right.toFields ∨
    selected = right.toFields ∧ (([left.toFields, right.toFields].find? fun record =>
        !(record.getD "id").pyEq (selected.getD "id")).getD left.toFields) = left.toFields := by
  have hid : ∀ entity : Entity, entity.toFields.getD "id" = .str entity.id := fun _ => rfl
  have hself : ∀ id : String, (Json.str id).pyEq (.str id) = true := fun id => by
    exact Json.pyEq_self rfl
  have hne : ∀ a b : String, a ≠ b → (Json.str a).pyEq (.str b) = false := by
    intro a b hab
    unfold Json.pyEq
    simpa using hab
  rcases hdistinct with rfl | hdistinct
  · simp only [List.mem_cons, List.not_mem_nil, or_false, or_self] at hselected
    subst hselected
    left
    simp [hid, hself]
  · simp only [List.mem_cons, List.not_mem_nil, or_false] at hselected
    rcases hselected with rfl | rfl
    · left
      refine ⟨rfl, ?_⟩
      simp [hid, hself, hne _ _ hdistinct.symm]
    · right
      refine ⟨rfl, ?_⟩
      simp [hid, hne _ _ hdistinct]

/-- **The comparison of two records** reports equal texts. -/
theorem operatorResult_pair {left right : Entity} {property a b : String} {value : Json}
    {selected : Fields} (hother : request.other.isSome = true)
    (hproperty : request.property = some property)
    (hdistinct : left = right ∨ left.id ≠ right.id)
    (hleft : engine.propertyOf left.toFields property = .inr (.str a))
    (hright : engine.propertyOf right.toFields property = .inr (.str b))
    (hselected : selected ∈ [left.toFields, right.toFields]) :
    ∃ other ∈ [left.toFields, right.toFields],
      (engine.operatorResult request evidence [left.toFields, right.toFields]
        (.obj (normalizedFields (value, selected)))).status = .found ∧
      (engine.operatorResult request evidence [left.toFields, right.toFields]
        (.obj (normalizedFields (value, selected)))).value = .json (.obj
          [("selected", .obj selected), ("other", .obj other), ("equal", .bool (decide (a = b)))]) := by
  have hequal : ∀ a b : String, sameValue (.inr (.str a)) (.inr (.str b)) = decide (a = b) := by
    intro a b
    unfold sameValue Json.pyEq
    rw [Bool.eq_iff_iff, beq_iff_eq, decide_eq_true_eq]
  obtain ⟨reference, hreference⟩ := Option.isSome_iff_exists.1 hother
  unfold operatorResult
  rw [hreference, hproperty]
  rcases otherRecord left right hdistinct hselected with ⟨rfl, hfind⟩ | ⟨rfl, hfind⟩
  · refine ⟨right.toFields, by simp, rfl, ?_⟩
    change FactValue.json (.obj [("selected", .obj left.toFields),
      ("other", .obj (([left.toFields, right.toFields].find? fun record =>
        !(record.getD "id").pyEq (left.toFields.getD "id")).getD left.toFields)),
      ("equal", .bool (sameValue (engine.propertyOf left.toFields property)
        (engine.propertyOf (([left.toFields, right.toFields].find? fun record =>
          !(record.getD "id").pyEq (left.toFields.getD "id")).getD left.toFields) property)))]) = _
    rw [hfind, hleft, hright, hequal]
  · refine ⟨left.toFields, by simp, rfl, ?_⟩
    change FactValue.json (.obj [("selected", .obj right.toFields),
      ("other", .obj (([left.toFields, right.toFields].find? fun record =>
        !(record.getD "id").pyEq (right.toFields.getD "id")).getD left.toFields)),
      ("equal", .bool (sameValue (engine.propertyOf right.toFields property)
        (engine.propertyOf (([left.toFields, right.toFields].find? fun record =>
          !(record.getD "id").pyEq (right.toFields.getD "id")).getD left.toFields) property)))]) = _
    rw [hfind, hleft, hright, hequal]
    simp only [eq_comm]

/-- Comparisons of the texts are comparisons of what they denote. -/
structure Chronological (property : String) (kind : AtomicKind) (texts : List String) : Prop where
  filters : ∀ a ∈ texts, ∀ b ∈ texts,
    evaluatePredicate .lt (.str a) (.scalar (.str b)) = decide (kind.denoted a < kind.denoted b) ∧
    evaluatePredicate .lte (.str a) (.scalar (.str b)) = decide (kind.denoted a ≤ kind.denoted b) ∧
    evaluatePredicate .gt (.str a) (.scalar (.str b)) = decide (kind.denoted b < kind.denoted a) ∧
    evaluatePredicate .gte (.str a) (.scalar (.str b)) = decide (kind.denoted b ≤ kind.denoted a)
  ranges : ∀ a ∈ texts, ∀ low ∈ texts, ∀ high ∈ texts,
    evaluatePredicate .dateRange (.str a) (.tuple [.str low, .str high])
      = (decide (kind.denoted low ≤ kind.denoted a) && decide (kind.denoted a < kind.denoted high))
  ordered : ∀ (request : SemanticFactRequest) (now : Clock) (evidence : FactEvidence)
    (records : List Fields) (text : Fields → String),
    (request.operation = .latest ∨ request.operation = .earliest) →
    request.property = some property → records ≠ [] →
    engine.ReadsTexts request evidence records text → (∀ record ∈ records, text record ∈ texts) →
    ∃ result, engine.transform request now evidence records = .ok result ∧
      result.status = .found ∧ ∃ chosen ∈ records, result.value = .json (.str (text chosen)) ∧
      ∀ record ∈ records, if request.operation = .latest
        then kind.denoted (text record) ≤ kind.denoted (text chosen)
        else kind.denoted (text chosen) ≤ kind.denoted (text record)
  extreme : ∀ (request : SemanticFactRequest) (now : Clock) (evidence : FactEvidence)
    (records : List Fields) (text : Fields → String),
    (request.operation = .argmax ∨ request.operation = .argmin) → request.other = none →
    request.property = some property → records ≠ [] →
    engine.ReadsTexts request evidence records text → (∀ record ∈ records, text record ∈ texts) →
    ∃ result, engine.transform request now evidence records = .ok result ∧
      result.status = .found ∧ ∃ chosen ∈ records, result.value = .json (.obj chosen) ∧
      ∀ record ∈ records, if request.operation = .argmax
        then kind.denoted (text record) ≤ kind.denoted (text chosen)
        else kind.denoted (text chosen) ≤ kind.denoted (text record)
  pairwise : ∀ (request : SemanticFactRequest) (now : Clock) (evidence : FactEvidence)
    (left right : Entity) (text : Fields → String), ∀ a ∈ texts, ∀ b ∈ texts,
    (request.operation = .argmax ∨ request.operation = .argmin) → request.other.isSome = true →
    request.property = some property → (left = right ∨ left.id ≠ right.id) →
    engine.ReadsTexts request evidence [left.toFields, right.toFields] text →
    engine.propertyOf left.toFields property = .inr (.str a) →
    engine.propertyOf right.toFields property = .inr (.str b) →
    ∃ result, engine.transform request now evidence [left.toFields, right.toFields] = .ok result ∧
      result.status = .found ∧ ∃ selected ∈ [left.toFields, right.toFields],
        ∃ other ∈ [left.toFields, right.toFields], result.value = .json (.obj
          [("selected", .obj selected), ("other", .obj other),
            ("equal", .bool (decide (kind.denoted a = kind.denoted b)))])

/-- What a record is read as is accepted by the contract. -/
theorem accepts_of_recordValue {property : String} {contract : PropertyContract} {record : Fields}
    {value : Json} (hcontract : engine.schema.ontology.contract? property = some contract)
    (hproperty : request.property = some property)
    (h : engine.recordValue record request evidence = .ok (.inr value)) :
    contract.accepts value = true := by
  have hvalid : ∀ value, engine.schema.valueValid property value = contract.accepts value := by
    intro value
    unfold SemanticSchemaRegistry.valueValid
    rw [hcontract]
    rfl
  unfold recordValue at h
  rw [hproperty] at h
  split at h
  case h_1 =>
    unfold relationshipProperty at h
    rw [hproperty] at h
    split at h
    case h_1 hsome =>
      obtain rfl := Option.some.inj hsome
      dsimp only at h
      split at h
      · cases h
      · split at h
        · cases h
        case isFalse hok =>
          obtain rfl := Sum.inr.inj (Except.ok.inj h)
          rw [not_or] at hok
          simpa [hvalid] using hok.2
    case h_2 => cases h
  case h_2 hsome =>
    obtain rfl := Option.some.inj hsome
    have hvalue := Except.ok.inj h
    unfold propertyOf at hvalue
    dsimp only at hvalue
    split at hvalue
    · cases hvalue
    · split at hvalue
      · cases hvalue
      case isFalse hok =>
        obtain rfl := Sum.inr.inj hvalue
        rw [not_or] at hok
        simpa [hvalid] using hok.2
  case h_3 hnone => cases hnone

/-- The contract of a departure time. -/
def departureContract : PropertyContract where
  type := { alternatives := [.atomic .datetime] }
  entities := ["event"]
  relationships := []
  operators := [.lt, .lte, .gt, .gte, .dateRange]
  validated := by decide

/-- An empty household whose events have departure times. -/
def departures : HouseholdFactEngine where
  graph := ⟨[], fun _ => [], fun _ => none, fun _ => [], fun _ _ => [], fun _ => false,
    by simp, by simp, by simp⟩
  schema := {
    catalog := {
      entities := [("event", ⟨"event", ["departure"], []⟩)]
      relations := []
      edge_registry := .deployed
      relations_declared := noRelation_declared .deployed }
    ontology := {
      properties := [("departure", ⟨["departure"], departureContract⟩)]
      validated := by decide } }
  max_records := 25
  bounded := defaultRecords_bounded

end HouseholdFactEngine

end HomeCortex
