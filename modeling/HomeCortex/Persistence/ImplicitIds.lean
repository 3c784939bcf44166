/-
# Implicit edge identities

`implicit_edge_record_id` of `persistence/ingestion.py` names an edge without an
explicit id after its two endpoints: it joins their components with `__`.  Since
`_` is a letter of tables and keys, the joined text can be read in several ways.
Two pairs of endpoints get one identity exactly when they `Clash`: either their
endpoints are pairwise written alike, or one source continues the other by a text
that the targets make up for (`implicitEdgeRecordId_eq_iff`).  Two different
endpoints are written alike when the table of one takes over a part of the key of
the other (`Regrouped`), or when one spells the base64 form of the other
(`Spelled`); two keys with colons never are, as base64 loses nothing.

A file of edges without ids is therefore rejected for a duplicate edge id exactly
when an edge clashes with one before it.
-/

import HomeCortex.Persistence.Mirror

namespace HomeCortex

/-! ### The base64 form of a key with colons -/

theorem base64Digit_injective {m n : Nat} (hm : m < 64) (hn : n < 64)
    (h : base64Digit m = base64Digit n) : m = n := by
  have key : ∀ a b : Fin 64, base64Digit a = base64Digit b → a = b := by decide +kernel
  exact congrArg Fin.val (key ⟨m, hm⟩ ⟨n, hn⟩ h)

/-- **The encoding loses nothing.**  Three bytes are read back from their four digits. -/
theorem base64UrlEncode_injective {xs ys : List UInt8}
    (h : base64UrlEncode xs = base64UrlEncode ys) : xs = ys := by
  have digit : ∀ {m n : Nat}, m < 64 → n < 64 → base64Digit m = base64Digit n → m = n :=
    base64Digit_injective
  fun_induction base64UrlEncode xs generalizing ys with
  | case1 =>
      rcases ys with _ | ⟨a', _ | ⟨b', _ | ⟨c', rest'⟩⟩⟩
      · rfl
      all_goals simp [base64UrlEncode] at h
  | case2 a =>
      rcases ys with _ | ⟨a', _ | ⟨b', _ | ⟨c', rest'⟩⟩⟩
      case cons.nil =>
        simp only [base64UrlEncode, List.cons.injEq, and_true] at h
        have ha := a.toNat_lt
        have ha' := a'.toNat_lt
        have h₁ := digit (by omega) (by omega) h.1
        have h₂ := digit (by omega) (by omega) h.2
        rw [UInt8.toNat_inj.1 (by omega : a.toNat = a'.toNat)]
      all_goals simp [base64UrlEncode] at h
  | case3 a b =>
      rcases ys with _ | ⟨a', _ | ⟨b', _ | ⟨c', rest'⟩⟩⟩
      case cons.cons.nil =>
        simp only [base64UrlEncode, List.cons.injEq, and_true] at h
        obtain ⟨h₁, h₂, h₃⟩ := h
        have ha := a.toNat_lt
        have ha' := a'.toNat_lt
        have hb := b.toNat_lt
        have hb' := b'.toNat_lt
        have h₁ := digit (by omega) (by omega) h₁
        have h₂ := digit (by omega) (by omega) h₂
        have h₃ := digit (by omega) (by omega) h₃
        rw [UInt8.toNat_inj.1 (by omega : a.toNat = a'.toNat),
          UInt8.toNat_inj.1 (by omega : b.toNat = b'.toNat)]
      all_goals simp [base64UrlEncode] at h
  | case4 a b c rest ih =>
      rcases ys with _ | ⟨a', _ | ⟨b', _ | ⟨c', rest'⟩⟩⟩
      case cons.cons.cons =>
        simp only [base64UrlEncode, List.cons.injEq] at h
        obtain ⟨h₁, h₂, h₃, h₄, hrest⟩ := h
        have ha := a.toNat_lt
        have ha' := a'.toNat_lt
        have hb := b.toNat_lt
        have hb' := b'.toNat_lt
        have hc := c.toNat_lt
        have hc' := c'.toNat_lt
        have h₁ := digit (by omega) (by omega) h₁
        have h₂ := digit (by omega) (by omega) h₂
        have h₃ := digit (by omega) (by omega) h₃
        have h₄ := digit (by omega) (by omega) h₄
        rw [UInt8.toNat_inj.1 (by omega : a.toNat = a'.toNat),
          UInt8.toNat_inj.1 (by omega : b.toNat = b'.toNat),
          UInt8.toNat_inj.1 (by omega : c.toNat = c'.toNat), ih hrest]
      all_goals simp [base64UrlEncode] at h

/-- A text is read back from its UTF-8 bytes. -/
theorem utf8Bytes_injective {cs ds : List Char}
    (h : cs.flatMap String.utf8EncodeChar = ds.flatMap String.utf8EncodeChar) : cs = ds := by
  have hbytes : (String.ofList cs).toByteArray = (String.ofList ds).toByteArray := by
    simp [List.utf8Encode, h]
  exact String.ofList_injective (String.toByteArray_inj.1 hbytes)

/-! ### Endpoints that are written alike -/

/-- How an endpoint is written in an implicit identity. -/
def RecordID.written (record : RecordID) : String :=
  if ':' ∈ record.id.toList then
    "b64_" ++ String.ofList (base64UrlEncode
      ((canonicalRecordId record).toList.flatMap String.utf8EncodeChar))
  else record.table_name ++ "_" ++ record.id

theorem replaceFirstColon_append {cs : List Char} (h : ':' ∉ cs) (ds : List Char) :
    replaceFirstColon (cs ++ ':' :: ds) = cs ++ '_' :: ds := by
  induction cs with
  | nil => rfl
  | cons c cs ih =>
      rw [List.mem_cons, not_or] at h
      rw [List.cons_append, replaceFirstColon, if_neg (Ne.symm h.1), ih h.2, List.cons_append]

theorem implicitEdgeComponent_eq_written {record : RecordID} (h : record.Valid) :
    implicitEdgeComponent record = record.written := by
  have hlist : (canonicalRecordId record).toList
      = record.table_name.toList ++ ':' :: record.id.toList := by
    simp [canonicalRecordId]
  simp only [implicitEdgeComponent, RecordID.written, List.contains_iff_mem]
  split
  · rfl
  · rw [hlist, replaceFirstColon_append (isTableName_not_colon h.1)]
    apply String.toList_inj.1
    simp

/-- The table of `b` takes over the beginning of the key of `a`. -/
def Regrouped (a b : RecordID) : Prop :=
  ':' ∉ a.id.toList ∧
    ∃ w, b.table_name = a.table_name ++ "_" ++ w ∧ a.id = w ++ "_" ++ b.id

/-- `b` spells the base64 form of `a`. -/
def Spelled (a b : RecordID) : Prop :=
  ':' ∈ a.id.toList ∧ ':' ∉ b.id.toList ∧ b.table_name ++ "_" ++ b.id = a.written

/-- Two identities that an implicit edge identity does not tell apart. -/
def WrittenAlike (a b : RecordID) : Prop :=
  a = b ∨ Regrouped a b ∨ Regrouped b a ∨ Spelled a b ∨ Spelled b a

theorem Regrouped.written_eq {a b : RecordID} (h : Regrouped a b) : a.written = b.written := by
  obtain ⟨hcolon, w, htable, hid⟩ := h
  have hb : ':' ∉ b.id.toList := by
    intro hmem
    exact hcolon (by simp [hid, hmem])
  rw [RecordID.written, RecordID.written, if_neg hcolon, if_neg hb, htable, hid]
  apply String.toList_inj.1
  simp

theorem Spelled.written_eq {a b : RecordID} (h : Spelled a b) : b.written = a.written := by
  rw [← h.2.2, RecordID.written, if_neg h.2.1]

/-- Two ways to cut one text at an underscore. -/
theorem underscore_cut {s t u v : List Char} (h : s ++ '_' :: t = u ++ '_' :: v) :
    (s = u ∧ t = v) ∨ (∃ w, u = s ++ '_' :: w ∧ t = w ++ '_' :: v) ∨
      ∃ w, s = u ++ '_' :: w ∧ v = w ++ '_' :: t := by
  rcases List.append_eq_append_iff.1 h with ⟨w, hu, ht⟩ | ⟨w, hs, hv⟩
  · cases w with
    | nil => simp_all
    | cons c w =>
        rw [List.cons_append, List.cons.injEq] at ht
        exact Or.inr (Or.inl ⟨w, by rw [hu, ← ht.1], ht.2⟩)
  · cases w with
    | nil => simp_all
    | cons c w =>
        rw [List.cons_append, List.cons.injEq] at hv
        exact Or.inr (Or.inr ⟨w, by rw [hs, ← hv.1], hv.2⟩)

theorem written_eq_iff {a b : RecordID} (ha : a.Valid) (hb : b.Valid) :
    a.written = b.written ↔ WrittenAlike a b := by
  constructor
  · intro h
    by_cases hca : ':' ∈ a.id.toList
    · by_cases hcb : ':' ∈ b.id.toList
      · -- both in base64
        rw [RecordID.written, RecordID.written, if_pos hca, if_pos hcb, String.append_right_inj,
          String.ofList_inj] at h
        have hcanonical := String.toList_inj.1 (utf8Bytes_injective (base64UrlEncode_injective h))
        exact Or.inl (canonicalRecordId_injective ha hb hcanonical)
      · refine Or.inr (Or.inr (Or.inr (Or.inl ⟨hca, hcb, ?_⟩)))
        rw [h, RecordID.written, if_neg hcb]
    · by_cases hcb : ':' ∈ b.id.toList
      · refine Or.inr (Or.inr (Or.inr (Or.inr ⟨hcb, hca, ?_⟩)))
        rw [← h, RecordID.written, if_neg hca]
      · rw [RecordID.written, RecordID.written, if_neg hca, if_neg hcb] at h
        have hcut : a.table_name.toList ++ '_' :: a.id.toList
            = b.table_name.toList ++ '_' :: b.id.toList := by
          simpa using congrArg String.toList h
        rcases underscore_cut hcut with ⟨htable, hid⟩ | ⟨w, htable, hid⟩ | ⟨w, htable, hid⟩
        · have htable := String.toList_inj.1 htable
          have hid := String.toList_inj.1 hid
          cases a
          cases b
          cases htable
          cases hid
          exact Or.inl rfl
        · refine Or.inr (Or.inl ⟨hca, String.ofList w, ?_, ?_⟩) <;> apply String.toList_inj.1
          · simpa using htable
          · simpa using hid
        · refine Or.inr (Or.inr (Or.inl ⟨hcb, String.ofList w, ?_, ?_⟩)) <;>
            apply String.toList_inj.1
          · simpa using htable
          · simpa using hid
  · rintro (rfl | h | h | h | h)
    · rfl
    · exact h.written_eq
    · exact h.written_eq.symm
    · exact h.written_eq.symm
    · exact h.written_eq

/-! ### Pairs of endpoints with one identity -/

/-- The source of `q` continues the source of `p`, and the target of `p` makes up for it. -/
def Shifted (p q : RecordID × RecordID) : Prop :=
  (q.1.written = p.1.written ++ "_" ∧ p.2.written = "_" ++ q.2.written) ∨
    ∃ w, q.1.written = p.1.written ++ "__" ++ w ∧ p.2.written = w ++ "__" ++ q.2.written

/-- Two different pairs of endpoints that have one implicit identity. -/
def Clash (p q : RecordID × RecordID) : Prop :=
  (p ≠ q ∧ WrittenAlike p.1 q.1 ∧ WrittenAlike p.2 q.2) ∨ Shifted p q ∨ Shifted q p

theorem Shifted.joined_eq {p q : RecordID × RecordID} (h : Shifted p q) :
    p.1.written ++ "__" ++ p.2.written = q.1.written ++ "__" ++ q.2.written := by
  rcases h with ⟨hsource, htarget⟩ | ⟨w, hsource, htarget⟩ <;>
    · rw [hsource, htarget]
      apply String.toList_inj.1
      simp

theorem Shifted.ne {p q : RecordID × RecordID} (h : Shifted p q) : p ≠ q := by
  rintro rfl
  rcases h with ⟨hsource, -⟩ | ⟨w, hsource, -⟩ <;>
    · have hlength := congrArg List.length (congrArg String.toList hsource)
      simp at hlength

/-- The text by which one source is longer is taken from the target. -/
theorem shifted_of_append {p q : RecordID × RecordID} {w : List Char}
    (hsource : q.1.written.toList = p.1.written.toList ++ w) (hw : w ≠ [])
    (htarget : '_' :: '_' :: p.2.written.toList = w ++ '_' :: '_' :: q.2.written.toList) :
    Shifted p q := by
  match w, hw with
  | [c], _ =>
      simp only [List.cons_append, List.nil_append, List.cons.injEq] at htarget
      obtain ⟨rfl, -, htarget⟩ := htarget
      refine Or.inl ⟨?_, ?_⟩ <;> apply String.toList_inj.1
      · simpa using hsource
      · simpa using htarget
  | c :: d :: w, _ =>
      simp only [List.cons_append, List.cons.injEq] at htarget
      obtain ⟨rfl, rfl, htarget⟩ := htarget
      refine Or.inr ⟨String.ofList w, ?_, ?_⟩ <;> apply String.toList_inj.1
      · simpa using hsource
      · simpa using htarget

theorem joined_eq_iff {p q : RecordID × RecordID} :
    p.1.written ++ "__" ++ p.2.written = q.1.written ++ "__" ++ q.2.written ↔
      (p.1.written = q.1.written ∧ p.2.written = q.2.written) ∨ Shifted p q ∨ Shifted q p := by
  constructor
  · intro h
    have hlist : p.1.written.toList ++ '_' :: '_' :: p.2.written.toList
        = q.1.written.toList ++ '_' :: '_' :: q.2.written.toList := by
      simpa using congrArg String.toList h
    rcases List.append_eq_append_iff.1 hlist with ⟨w, hsource, htarget⟩ | ⟨w, hsource, htarget⟩
    · by_cases hw : w = []
      · subst hw
        simp only [List.append_nil, List.nil_append, List.cons.injEq, true_and] at hsource htarget
        exact Or.inl ⟨(String.toList_inj.1 hsource).symm, String.toList_inj.1 htarget⟩
      · exact Or.inr (Or.inl (shifted_of_append hsource hw htarget))
    · by_cases hw : w = []
      · subst hw
        simp only [List.append_nil, List.nil_append, List.cons.injEq, true_and] at hsource htarget
        exact Or.inl ⟨String.toList_inj.1 hsource, (String.toList_inj.1 htarget).symm⟩
      · exact Or.inr (Or.inr (shifted_of_append hsource hw htarget))
  · rintro (⟨hsource, htarget⟩ | h | h)
    · rw [hsource, htarget]
    · exact h.joined_eq
    · exact h.joined_eq.symm

/-- **The pairs with one identity.**  Two pairs of endpoints have the same implicit
identity exactly when they are equal or clash. -/
theorem implicitEdgeRecordId_eq_iff {relation : String} {p q : RecordID × RecordID}
    (hp : p.1.Valid ∧ p.2.Valid) (hq : q.1.Valid ∧ q.2.Valid) :
    Ingestion.implicitEdgeRecordId relation p.1 p.2
        = Ingestion.implicitEdgeRecordId relation q.1 q.2 ↔ p = q ∨ Clash p q := by
  rw [Ingestion.implicitEdgeRecordId, Ingestion.implicitEdgeRecordId, RecordID.mk.injEq,
    implicitEdgeComponent_eq_written hp.1, implicitEdgeComponent_eq_written hp.2,
    implicitEdgeComponent_eq_written hq.1, implicitEdgeComponent_eq_written hq.2, joined_eq_iff,
    written_eq_iff hp.1 hq.1, written_eq_iff hp.2 hq.2, Clash]
  constructor
  · rintro ⟨-, h | h⟩
    · by_cases hpq : p = q
      · exact Or.inl hpq
      · exact Or.inr (Or.inl ⟨hpq, h⟩)
    · exact Or.inr (Or.inr h)
  · rintro (rfl | ⟨-, h⟩ | h)
    · exact ⟨rfl, Or.inl ⟨Or.inl rfl, Or.inl rfl⟩⟩
    · exact ⟨rfl, Or.inl h⟩
    · exact ⟨rfl, Or.inr h⟩

theorem Clash.ne {p q : RecordID × RecordID} (h : Clash p q) : p ≠ q := by
  rcases h with h | h | h
  · exact h.1
  · exact h.ne
  · exact h.ne.symm

/-- Different pairs have different identities unless they clash. -/
theorem distinguished_iff {relation : String} {p q : RecordID × RecordID}
    (hp : p.1.Valid ∧ p.2.Valid) (hq : q.1.Valid ∧ q.2.Valid) :
    (p ≠ q → Ingestion.implicitEdgeRecordId relation p.1 p.2
        ≠ Ingestion.implicitEdgeRecordId relation q.1 q.2) ↔ ¬Clash p q := by
  rw [ne_eq, ne_eq, implicitEdgeRecordId_eq_iff hp hq]
  exact ⟨fun h hclash => h hclash.ne (Or.inr hclash), fun h hne hor => hor.elim hne h⟩

/-! ### Files of edges without ids -/

namespace Ingestion

open Except

/-- The checks of an edge that precede its identity, which leave its endpoints and
its record in canonical form. -/
def checkEdge (registry : EdgeSchemaRegistry) (schema : EdgeSchema) (known : List RecordID)
    (path : String) (seen : List PreparedEdge) (record : Fields) :
    Except PyError ((RecordID × RecordID) × Fields) := do
  let raw ← edgeEndpoints record path
  validateHouseholdRole record path
  let source ← parseRecordId raw.1 path
  let target ← parseRecordId raw.2 path
  validateEndpointTypes registry schema.id source target
  requireKnown known path "from" source
  requireKnown known path "to" target
  validateTemporalFields record path schema
  let record ← placePose schema.id path target record
  requireUnseen schema path seen source target
  return ((source, target), record)

/-- The error of an edge whose identity is taken. -/
def duplicateEdgeId (path : String) (edge : RecordID) : PyError :=
  .value ("Duplicate edge ID " ++ toString edge ++ " in " ++ path)

variable {registry : EdgeSchemaRegistry} {schema : EdgeSchema} {known : List RecordID}
  {path : String} {raws : List Fields}

/-- An edge is checked, then it gets its identity, which has to be new. -/
theorem prepareEdge_eq {seen : List PreparedEdge} {raw : Fields} :
    prepareEdge registry schema known path seen raw =
      (do
        let checked ← checkEdge registry schema known path seen raw
        let edge ← edgeRecordId schema.id checked.2 checked.1.1 checked.1.2 path
        raiseIf ((seen.map PreparedEdge.record_id).contains edge) (duplicateEdgeId path edge)
        return ⟨schema.id, edge, checked.1.1, checked.1.2,
          checked.2.without ["id", "from", "to", "in", "out"]⟩) := by
  simp only [prepareEdge, checkEdge, duplicateEdgeId, bind_assoc, pure_bind]

/-- The loop over the records of a relation reaches the identity of an edge with the
endpoints `pair`, after the edges `seen`. -/
def ReachesIdentity (registry : EdgeSchemaRegistry) (schema : EdgeSchema)
    (known : List RecordID) (path : String) (raws : List Fields) (seen : List PreparedEdge)
    (pair : RecordID × RecordID) (placed : Fields) : Prop :=
  ∃ before raw after, raws = before ++ raw :: after ∧
    CollectsEdges registry schema known path before seen ∧
    checkEdge registry schema known path seen raw = .ok (pair, placed)

/-- The loop raises `Duplicate edge ID`. -/
def RejectsDuplicate (registry : EdgeSchemaRegistry) (schema : EdgeSchema)
    (known : List RecordID) (path : String) (raws : List Fields) : Prop :=
  ∃ seen pair placed edge, ReachesIdentity registry schema known path raws seen pair placed ∧
    edgeRecordId schema.id placed pair.1 pair.2 path = .ok edge ∧
      edge ∈ seen.map PreparedEdge.record_id

/-- An edge that passes the other checks clashes with one before it. -/
def ClashesWithEarlier (registry : EdgeSchemaRegistry) (schema : EdgeSchema)
    (known : List RecordID) (path : String) (raws : List Fields) : Prop :=
  ∃ seen pair placed, ReachesIdentity registry schema known path raws seen pair placed ∧
    ∃ earlier ∈ seen, Clash (earlier.source, earlier.target) pair

theorem checkEdge_eq_ok {seen : List PreparedEdge} {raw placed : Fields}
    {pair : RecordID × RecordID}
    (h : checkEdge registry schema known path seen raw = .ok (pair, placed)) :
    pair.1.Valid ∧ pair.2.Valid ∧ placed.getD "id" = raw.getD "id" ∧
      requireUnseen schema path seen pair.1 pair.2 = .ok () := by
  simp only [checkEdge, bind_eq_ok, pure_eq_ok, parseRecordId_eq_ok] at h
  obtain ⟨_, -, _, -, source, ⟨hsource, -⟩, target, ⟨htarget, -⟩, _, -, _, -, _, -, _, -, placed',
    hplaced, _, hunseen, hpair⟩ := h
  cases hpair
  exact ⟨hsource, htarget, placePose_id hplaced, hunseen⟩

/-- Without an explicit id, the identity is the implicit one. -/
theorem edgeRecordId_implicit {relation : String} {record : Fields} {source target : RecordID}
    (h : record.getD "id" = .null) :
    edgeRecordId relation record source target path
      = .ok (implicitEdgeRecordId relation source target) :=
  edgeRecordId_eq_ok.2 (Or.inl ⟨h, rfl⟩)

/-- The edges before have valid endpoints and the identities of these. -/
theorem implicit_of_collects {before : List Fields} {seen : List PreparedEdge}
    (h : CollectsEdges registry schema known path before seen)
    (hids : ∀ raw ∈ before, raw.getD "id" = .null) {edge : PreparedEdge} (hedge : edge ∈ seen) :
    (edge.source.Valid ∧ edge.target.Valid) ∧
      edge.record_id = implicitEdgeRecordId schema.id edge.source edge.target := by
  have hdescribes := h.forall₂ (R := fun raw edge =>
      DescribesEdge schema.id path raw edge.record_id edge.source edge.target edge.content)
    fun _ _ _ => describesEdge_of_prepareEdge
  obtain ⟨raw, hraw, hedge⟩ := List.exists_of_forall₂_right hdescribes hedge
  rcases hedge.id_text with hid | ⟨-, hid⟩
  · rw [hids raw hraw] at hid
    cases hid
  · exact ⟨hedge.valid, hid⟩

/-- **When a file without ids is rejected for a duplicate.**  Exactly when an edge that
passes the other checks clashes with an edge before it. -/
theorem rejectsDuplicate_iff (hids : ∀ raw ∈ raws, raw.getD "id" = .null) :
    RejectsDuplicate registry schema known path raws ↔
      ClashesWithEarlier registry schema known path raws := by
  have key : ∀ {seen pair placed}, ReachesIdentity registry schema known path raws seen pair placed →
      (implicitEdgeRecordId schema.id pair.1 pair.2 ∈ seen.map PreparedEdge.record_id ↔
        ∃ earlier ∈ seen, Clash (earlier.source, earlier.target) pair) := by
    rintro seen pair placed ⟨before, raw, after, rfl, hbefore, hcheck⟩
    obtain ⟨hsource, htarget, -, hunseen⟩ := checkEdge_eq_ok hcheck
    have himplicit : ∀ edge ∈ seen, (edge.source.Valid ∧ edge.target.Valid) ∧
        edge.record_id = implicitEdgeRecordId schema.id edge.source edge.target :=
      fun edge => implicit_of_collects hbefore
        fun raw hraw => hids raw (List.mem_append_left _ hraw)
    have hne : ∀ edge ∈ seen, (edge.source, edge.target) ≠ pair := by
      rintro edge hedge rfl
      exact (requireUnseen_eq_ok.1 hunseen).1 (List.mem_map.2 ⟨edge, hedge, rfl⟩)
    rw [List.mem_map]
    constructor
    · rintro ⟨edge, hedge, hid⟩
      rw [(himplicit edge hedge).2] at hid
      exact ⟨edge, hedge, ((implicitEdgeRecordId_eq_iff (p := (edge.source, edge.target))
        (himplicit edge hedge).1 ⟨hsource, htarget⟩).1 hid).resolve_left (hne edge hedge)⟩
    · rintro ⟨edge, hedge, hclash⟩
      refine ⟨edge, hedge, ?_⟩
      rw [(himplicit edge hedge).2]
      exact (implicitEdgeRecordId_eq_iff (p := (edge.source, edge.target))
        (himplicit edge hedge).1 ⟨hsource, htarget⟩).2 (Or.inr hclash)
  have hplaced : ∀ {seen pair placed},
      ReachesIdentity registry schema known path raws seen pair placed →
        placed.getD "id" = .null := by
    rintro seen pair placed ⟨before, raw, after, rfl, -, hcheck⟩
    rw [(checkEdge_eq_ok hcheck).2.2.1]
    exact hids raw (by simp)
  constructor
  · rintro ⟨seen, pair, placed, edge, hreaches, hedge, hmem⟩
    rw [edgeRecordId_implicit (hplaced hreaches)] at hedge
    cases hedge
    exact ⟨seen, pair, placed, hreaches, (key hreaches).1 hmem⟩
  · rintro ⟨seen, pair, placed, hreaches, hclash⟩
    exact ⟨seen, pair, placed, _, hreaches, edgeRecordId_implicit (hplaced hreaches),
      (key hreaches).2 hclash⟩

/-- A file that is rejected so ends ingestion with the error about the identity. -/
theorem RejectsDuplicate.prepareRelation_eq {file : SourceFile} (hschema : schema ∈ registry.schemas)
    (hraws : recordsFromFile file = .ok raws)
    (h : RejectsDuplicate registry schema known file.path raws) :
    ∃ edge, prepareRelation registry known (schema.id, file)
      = .error (duplicateEdgeId file.path edge) := by
  obtain ⟨seen, pair, placed, edge, ⟨before, raw, after, rfl, hbefore, hcheck⟩, hedge, hmem⟩ := h
  have hstep : prepareEdge registry schema known file.path seen raw
      = .error (duplicateEdgeId file.path edge) := by
    rw [prepareEdge_eq, hcheck]
    simp [hedge, raiseIf, hmem, bind, Except.bind]
  have hfold : (before ++ raw :: after).foldlM (fun edges record => do
      return edges ++ [← prepareEdge registry schema known file.path edges record]) []
        = .error (duplicateEdgeId file.path edge) := by
    rw [List.foldlM_append, Collects.foldlM_eq_ok.2 ⟨seen, rfl, hbefore⟩]
    simp only [List.nil_append, bind, Except.bind, List.foldlM_cons, hstep]
  refine ⟨edge, ?_⟩
  simp only [prepareRelation, (registry.valid schema hschema).name,
    relationSchema_eq_ok.2 ⟨hschema, rfl⟩, hraws]
  simp only [raiseIf, bind, Except.bind] at hfold ⊢
  simp [hfold]

end Ingestion
end HomeCortex
