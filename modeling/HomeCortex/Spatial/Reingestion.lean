/-
# Canonical spatial fields are kept by ingestion

`apply_space_spatial_fields` and `apply_located_in_pose` write the canonical form of what
they accept.  That form is accepted again, from any source file, and rewritten to itself
(`applySpaceSpatialFields_self`, `applyLocatedInPose_self`): the unit is `m`, the basis has
taken the place of the legacy axes, the anchors are embedded mappings of the space's own
anchors.  With the codecs of bodies, samples, poses and anchors this is
`spatial_records_reread`.
-/

import HomeCortex.Spatial.Mappings

namespace HomeCortex

/-- Writing the value that is there changes nothing. -/
theorem Fields.set_self {record : Fields} {key : String} {value : Json}
    (h : record.get? key = some value) : record.set key value = record := by
  induction record with
  | nil => cases h
  | cons field record ih =>
      obtain ⟨k, v⟩ := field
      rw [Fields.get?_cons] at h
      rw [Fields.set]
      split
      case isTrue hk =>
        rw [if_pos hk] at h
        rw [← Option.some.inj h, hk]
      case isFalse hk =>
        rw [if_neg hk] at h
        rw [ih h]

namespace Spatial

open Except

/-! ### Rewritten fields -/

/-- A rewritten field holds what was written. -/
theorem rewriteField_self {record rewritten : Fields} {key : String}
    {rewrite : Json → Except PyError Json} (h : rewriteField record key rewrite = .ok rewritten) :
    rewritten.get? key = none ∨
      ∃ value value', rewrite value = .ok value' ∧ rewritten.get? key = some value' := by
  unfold rewriteField at h
  split at h
  case h_1 hnone =>
    obtain rfl := Except.ok.inj h
    exact .inl hnone
  case h_2 value _ =>
    simp only [bind_eq_ok, pure_eq_ok] at h
    obtain ⟨value', hvalue, rfl⟩ := h
    exact .inr ⟨value, value', hvalue, by rw [Fields.get?_set, if_pos rfl]⟩

/-- Rewriting adds no field and drops none. -/
theorem rewriteField_has {record rewritten : Fields} {key : String}
    {rewrite : Json → Except PyError Json} (h : rewriteField record key rewrite = .ok rewritten) :
    rewritten.has = record.has := by
  funext k
  by_cases hk : k = key
  · subst hk
    unfold rewriteField at h
    split at h
    case h_1 =>
      obtain rfl := Except.ok.inj h
      rfl
    case h_2 value hvalue =>
      simp only [bind_eq_ok, pure_eq_ok] at h
      obtain ⟨value', -, rfl⟩ := h
      rw [Fields.has, Fields.has, Fields.get?_set, if_pos rfl, hvalue]
      rfl
  · rw [Fields.has, Fields.has, rewriteField_get? h hk]

/-- **A rewriting that keeps what it writes** changes nothing in a record that holds it. -/
theorem rewriteField_eq {record final rewritten : Fields} {key : String}
    {rewrite again : Json → Except PyError Json} (h : rewriteField record key rewrite = .ok rewritten)
    (hfinal : final.get? key = rewritten.get? key)
    (hkept : ∀ value value', rewrite value = .ok value' → again value' = .ok value') :
    rewriteField final key again = .ok final := by
  rcases rewriteField_self h with hnone | ⟨value, value', hvalue, hget⟩
  · rw [rewriteField, hfinal, hnone]
  · rw [hget] at hfinal
    simp only [rewriteField, hfinal, hkept value value' hvalue, bind, Except.bind,
      Fields.set_self hfinal]
    rfl

/-! ### Vectors of numbers -/

theorem finiteNumber_eq_ok {value written : Json} {field source : String}
    (h : finiteNumber value field source = .ok written) (field' source' : String) :
    value = written ∧ finiteNumber written field' source' = .ok written := by
  simp only [finiteNumber, bind_eq_ok, pure_eq_ok] at h
  obtain ⟨x, hx, rfl⟩ := h
  refine ⟨rfl, ?_⟩
  have hread : finiteFloat value (.spatialContract
      (field' ++ " in " ++ source' ++ " must be a finite number")) = .ok x := by
    unfold finiteFloat at hx ⊢
    split at hx
    case h_1 n =>
      split at hx
      case isTrue hfinite => simpa only [hfinite, if_true] using hx
      case isFalse => cases hx
    case h_2 y =>
      split at hx
      case isTrue hfinite => simpa only [hfinite, if_true] using hx
      case isFalse => cases hx
    case h_3 => cases hx
  simp only [finiteNumber, hread]
  rfl

theorem vector3_eq_ok {value : Json} {field source : String} {items : List Json}
    (h : vector3 value field source = .ok items) (field' source' : String) :
    vector3 (.arr items) field' source' = .ok items := by
  unfold vector3 at h
  split at h
  case h_1 a b c =>
    simp only [bind_eq_ok, pure_eq_ok] at h
    obtain ⟨x, hx, y, hy, z, hz, rfl⟩ := h
    have hx' := (finiteNumber_eq_ok hx field' source').2
    have hy' := (finiteNumber_eq_ok hy field' source').2
    have hz' := (finiteNumber_eq_ok hz field' source').2
    simp only [vector3, hx', hy', hz']
    rfl
  case h_2 => cases h

/-! ### The basis -/

/-- A finite vector other than zero. -/
def Proper (v : Vector3) : Prop :=
  (v.1.isFinite = true ∧ v.2.1.isFinite = true ∧ v.2.2.isFinite = true) ∧
    (v.1 == 0.0 && v.2.1 == 0.0 && v.2.2 == 0.0) = false

/-- What every accepted basis satisfies. -/
structure Basis.WellFormed (b : Basis) : Prop where
  x : Proper b.x
  y : Proper b.y
  z : Proper b.z
  independent : decide ((det3 b).abs < BASIS_SINGULAR) = false

theorem identity_wellFormed : IDENTITY_BASIS.WellFormed :=
  ⟨⟨by decide +kernel, by decide +kernel⟩, ⟨by decide +kernel, by decide +kernel⟩,
    ⟨by decide +kernel, by decide +kernel⟩, by decide +kernel⟩

theorem proper_of_basisVector {value : Json} {name : String} {v : Vector3}
    (h : basisVector value name = .ok v) : Proper v := by
  unfold basisVector at h
  split at h
  case h_1 a b c =>
    simp only [bind_eq_ok, raiseIf_eq_ok, pure_eq_ok] at h
    obtain ⟨x, hx, y, hy, z, hz, _, hzero, rfl⟩ := h
    exact ⟨⟨isFinite_of_finiteFloat hx, isFinite_of_finiteFloat hy, isFinite_of_finiteFloat hz⟩,
      hzero⟩
  case h_2 => cases h

theorem basisVector_self {v : Vector3} (h : Proper v) (name : String) :
    basisVector (vector3AsJson v) name = .ok v := by
  obtain ⟨x, y, z⟩ := v
  obtain ⟨hfinite, hzero⟩ := h
  simp only at hfinite hzero
  simp [basisVector, vector3AsJson, finiteFloat, hfinite.1, hfinite.2.1, hfinite.2.2, raiseIf, hzero,
    bind, Except.bind, pure, Except.pure]

theorem wellFormed_of_canonicalBasis {value : Json} {b : Basis} (h : canonicalBasis value = .ok b) :
    b.WellFormed := by
  unfold canonicalBasis at h
  split at h
  case h_1 => cases h
  case h_2 fields _ =>
    simp only [bind_eq_ok, raiseIf_eq_ok, pure_eq_ok] at h
    obtain ⟨_, -, _, -, x, hx, y, hy, z, hz, _, hdet, rfl⟩ := h
    exact ⟨proper_of_basisVector hx, proper_of_basisVector hy, proper_of_basisVector hz, hdet⟩

/-- A basis is read back from its mapping. -/
theorem canonicalBasis_self {b : Basis} (h : b.WellFormed) :
    canonicalBasis (basisAsJson b) = .ok b := by
  have hextra : Fields.extra [("x", vector3AsJson b.x), ("y", vector3AsJson b.y),
      ("z", vector3AsJson b.z)] ["x", "y", "z"] = [] := rfl
  have hall : (["x", "y", "z"].all (Fields.has [("x", vector3AsJson b.x), ("y", vector3AsJson b.y),
      ("z", vector3AsJson b.z)])) = true := rfl
  simp only [canonicalBasis, basisAsJson, Json.asObject?, hextra, hall]
  simp [Fields.getD, Fields.get?_cons, basisVector_self h.x, basisVector_self h.y,
    basisVector_self h.z, raiseIf, bind, Except.bind, pure, Except.pure]
  rw [if_neg (by simpa using h.independent)]

/-- A basis that is read is well formed, whichever form it was written in. -/
theorem wellFormed_of_canonicalBasisOf {item : Fields} {source : String} {b : Basis}
    (h : canonicalBasisOf item source = .ok b) : b.WellFormed := by
  unfold canonicalBasisOf at h
  dsimp only at h
  split at h
  case h_1 raw _ =>
    split at h
    case h_1 => cases h
    case h_2 => exact wellFormed_of_canonicalBasis h
  case h_2 =>
    split at h
    case isTrue =>
      simp only [bind_eq_ok] at h
      obtain ⟨axes, -, h⟩ := h
      split at h
      case h_1 => cases h
      case h_2 => exact wellFormed_of_canonicalBasis h
    case isFalse =>
      obtain rfl := Except.ok.inj h
      exact identity_wellFormed

theorem canonicalBasisOf_self {item : Fields} {b : Basis} (h : b.WellFormed)
    (hget : item.get? "basis" = some (basisAsJson b)) (source : String) :
    canonicalBasisOf item source = .ok b := by
  simp only [canonicalBasisOf, hget, canonicalBasis_self h]

/-! ### Coordinate frame and geometry -/

/-- The anchors that are parsed belong to the space that was given. -/
theorem anchors_of_parseEmbeddedAnchors {values : Json} {id : String} {anchors : List SurveyedAnchor}
    (h : parseEmbeddedAnchors values (.str id) = .ok anchors) (hid : id ≠ "") :
    (∀ anchor ∈ anchors, anchor.WellFormed ∧ anchor.space = id) ∧
      firstRepeated [] (anchors.map SurveyedAnchor.id) = none := by
  unfold parseEmbeddedAnchors at h
  split at h
  case h_1 =>
    obtain rfl := Except.ok.inj h
    exact ⟨fun _ ha => (by cases ha), rfl⟩
  case h_2 items =>
    simp only [bind_eq_ok] at h
    obtain ⟨parsed, hparsed, h⟩ := h
    split at h
    case h_1 => cases h
    case h_2 hunique =>
      obtain rfl := Except.ok.inj h
      refine ⟨fun anchor hanchor => ?_, hunique⟩
      obtain ⟨item, -, hitem⟩ := exists_of_mapM_mem hparsed hanchor
      obtain ⟨hwell, hspace⟩ := wellFormed_of_parse hitem
      exact ⟨hwell, hspace id hid rfl⟩
  case h_3 => cases h

/-- Embedded anchors are parsed back in their space. -/
theorem parseEmbeddedAnchors_self {id : String} {anchors : List SurveyedAnchor}
    (hanchors : ∀ anchor ∈ anchors, anchor.WellFormed ∧ anchor.space = id)
    (hunique : firstRepeated [] (anchors.map SurveyedAnchor.id) = none) :
    parseEmbeddedAnchors (.arr (anchors.map embeddedAnchorAsMapping)) (.str id) = .ok anchors := by
  have hread : (anchors.map embeddedAnchorAsMapping).mapM
      (fun item => parseSurveyedAnchor item (.str id)) = .ok anchors := by
    refine mapM_map_list fun anchor hanchor => ?_
    obtain ⟨hwell, rfl⟩ := hanchors anchor hanchor
    exact parseSurveyedAnchor_embedded hwell
  simp only [parseEmbeddedAnchors, hread, bind, Except.bind, hunique]
  rfl

theorem lengthUnit_eq_ok {value : Json} {source unit : String}
    (h : lengthUnit value source = .ok unit) : unit = LENGTH_UNIT := by
  unfold lengthUnit at h
  dsimp only at h
  split at h
  case h_1 =>
    split at h
    case isTrue => exact (Except.ok.inj h).symm
    case isFalse => cases h
  case h_2 => cases h

/-- The canonical form of a coordinate frame. -/
def coordinateMapping (b : Basis) (anchors : List SurveyedAnchor) : Fields :=
  [("unit", .str LENGTH_UNIT), ("basis", basisAsJson b)] ++
    if anchors.isEmpty then [] else [("anchors", .arr (anchors.map embeddedAnchorAsMapping))]

/-- The origin of a frame, checked and dropped. -/
def requireOrigin (item : Fields) (source : String) : Except PyError Unit :=
  match item.get? "origin" with
  | some origin => (vector3 origin "coordinate.origin" source).map fun _ => ()
  | none => .ok ()

/-- The unit of a frame, meters by default. -/
def coordinateUnit (item : Fields) (source : String) : Except PyError String :=
  match item.get? "unit" with
  | some unit => lengthUnit unit source
  | none => .ok LENGTH_UNIT

/-- The anchors of a frame, none by default. -/
def coordinateAnchors (item : Fields) (space : Json) : Except PyError (List SurveyedAnchor) :=
  match item.get? "anchors" with
  | some anchors => parseEmbeddedAnchors anchors space
  | none => .ok []

/-- `_canonical_coordinate`, stage by stage. -/
theorem canonicalCoordinate_stages (value : Json) (source : String) (space : Json) :
    canonicalCoordinate value source space = (do
      let item ← object value "coordinate" source
        ["anchors", "basis", "origin", "unit", "x_axis", "y_axis", "z_axis"]
      requireOrigin item source
      let unit ← coordinateUnit item source
      let basis ← canonicalBasisOf item source
      let anchors ← coordinateAnchors item space
      return .obj ([("unit", .str unit), ("basis", basisAsJson basis)] ++
        if anchors.isEmpty then [] else
          [("anchors", .arr (anchors.map embeddedAnchorAsMapping))])) := by
  unfold canonicalCoordinate
  cases object value "coordinate" source
      ["anchors", "basis", "origin", "unit", "x_axis", "y_axis", "z_axis"] with
  | error => rfl
  | ok item =>
      unfold requireOrigin coordinateUnit coordinateAnchors
      simp only [bind, Except.bind]
      cases item.get? "origin" with
      | none => cases item.get? "unit" <;> cases item.get? "anchors" <;> rfl
      | some origin =>
          simp only
          cases vector3 origin "coordinate.origin" source with
          | error => rfl
          | ok => cases item.get? "unit" <;> cases item.get? "anchors" <;> rfl

/-- **The canonical frame is kept.** -/
theorem canonicalCoordinate_self {value written : Json} {source id : String} (hid : id ≠ "")
    (h : canonicalCoordinate value source (.str id) = .ok written) (source' : String) :
    canonicalCoordinate written source' (.str id) = .ok written := by
  rw [canonicalCoordinate_stages] at h
  simp only [bind_eq_ok, pure_eq_ok] at h
  obtain ⟨item, -, _, -, unit, hunit, basis, hbasis, anchors, hanchors, rfl⟩ := h
  obtain rfl : unit = LENGTH_UNIT := by
    unfold coordinateUnit at hunit
    split at hunit
    case h_1 => exact lengthUnit_eq_ok hunit
    case h_2 => exact (Except.ok.inj hunit).symm
  have hparsed : (∀ anchor ∈ anchors, anchor.WellFormed ∧ anchor.space = id) ∧
      firstRepeated [] (anchors.map SurveyedAnchor.id) = none := by
    unfold coordinateAnchors at hanchors
    split at hanchors
    case h_1 => exact anchors_of_parseEmbeddedAnchors hanchors hid
    case h_2 =>
      obtain rfl := Except.ok.inj hanchors
      exact ⟨fun _ ha => (by cases ha), rfl⟩
  have hwell := wellFormed_of_canonicalBasisOf hbasis
  have hunit' : lengthUnit (.str LENGTH_UNIT) source' = .ok LENGTH_UNIT := rfl
  have hread := parseEmbeddedAnchors_self hparsed.1 hparsed.2
  rw [canonicalCoordinate_stages]
  cases anchors with
  | nil =>
      change (do
        let unit ← lengthUnit (Json.str LENGTH_UNIT) source'
        let basis ← canonicalBasisOf [("unit", Json.str LENGTH_UNIT), ("basis", basisAsJson basis)]
          source'
        pure (Json.obj [("unit", Json.str unit), ("basis", basisAsJson basis)])) = _
      rw [hunit', canonicalBasisOf_self hwell rfl]
      rfl
  | cons anchor anchors =>
      change (do
        let unit ← lengthUnit (Json.str LENGTH_UNIT) source'
        let basis ← canonicalBasisOf [("unit", Json.str LENGTH_UNIT), ("basis", basisAsJson basis),
          ("anchors", Json.arr ((anchor :: anchors).map embeddedAnchorAsMapping))] source'
        let anchors ← parseEmbeddedAnchors
          (Json.arr ((anchor :: anchors).map embeddedAnchorAsMapping)) (Json.str id)
        pure (Json.obj ([("unit", Json.str unit), ("basis", basisAsJson basis)] ++
          if anchors.isEmpty then [] else
            [("anchors", Json.arr (anchors.map embeddedAnchorAsMapping))]))) = _
      rw [hunit', canonicalBasisOf_self hwell rfl, hread]
      rfl

/-- **The canonical geometry is kept.** -/
theorem canonicalGeometry_self {value written : Json} {source : String}
    (h : canonicalGeometry value source = .ok written) (source' : String) :
    canonicalGeometry written source' = .ok written := by
  simp only [canonicalGeometry, bind_eq_ok, raiseIf_eq_ok, pure_eq_ok] at h
  obtain ⟨item, -, _, -, size, hsize, _, hpositive, rfl⟩ := h
  have hitem : object (.obj [("type", .str "box"), ("size", .arr size)]) "geometry" source'
      ["size", "type"] = .ok [("type", .str "box"), ("size", .arr size)] := rfl
  simp only [canonicalGeometry, hitem, bind, Except.bind]
  simp [Fields.getD, Fields.get?_cons, vector3_eq_ok hsize, raiseIf, hpositive, pure, Except.pure]

/-- The flags of a space depend on their own fields only. -/
theorem requireBoolean_congr {record record' : Fields} {field source source' : String}
    (hget : record'.get? field = record.get? field)
    (h : requireBoolean record field source = .ok ()) :
    requireBoolean record' field source' = .ok () := by
  have hhas : record'.has field = record.has field := by rw [Fields.has, hget, Fields.has]
  have hgetD : record'.getD field = record.getD field := by rw [Fields.getD, hget, Fields.getD]
  rw [requireBoolean] at h ⊢
  rw [hhas, hgetD]
  split at h
  case isTrue => cases h
  case isFalse hflag => rw [if_neg hflag]

/-- **The canonical fields of a space are kept**, whichever file they come from and in
whichever order. -/
theorem applySpaceSpatialFields_self {record placed exported : Fields} {source id : String}
    (hid : record.get? "id" = some (.str id)) (hfilled : id ≠ "")
    (h : applySpaceSpatialFields record source = .ok placed) (hexported : SameFields exported placed)
    (source' : String) : applySpaceSpatialFields exported source' = .ok exported := by
  have hid' : exported.get? "id" = some (.str id) :=
    (hexported "id").trans ((applySpaceSpatialFields_get? h (by decide)).trans hid)
  simp only [applySpaceSpatialFields, bind_eq_ok, pure_eq_ok] at h
  obtain ⟨middle, hcoordinate, final, hgeometry, _, hnavigable, _, haccessible, rfl⟩ := h
  have hkept : rewriteField exported "coordinate" (fun value =>
      canonicalCoordinate value source' (exported.getD "id")) = .ok exported := by
    refine rewriteField_eq hcoordinate
      ((hexported _).trans (rewriteField_get? hgeometry (by decide))) ?_
    intro value written hwritten
    rw [Fields.getD, hid] at hwritten
    rw [Fields.getD, hid']
    exact canonicalCoordinate_self hfilled hwritten source'
  have hkept' : rewriteField exported "geometry" (fun value => canonicalGeometry value source') =
      .ok exported :=
    rewriteField_eq hgeometry (hexported _) fun value written hwritten =>
      canonicalGeometry_self hwritten source'
  simp only [applySpaceSpatialFields, hkept, hkept', bind, Except.bind,
    requireBoolean_congr (hexported _) hnavigable, requireBoolean_congr (hexported _) haccessible]
  rfl

/-! ### The pose of a placement -/

/-- **A named vector is kept.** -/
theorem canonicalNamedVector_self {value written : Json} {names : List String}
    {field source : String} (hnames : names.Nodup)
    (h : canonicalNamedVector value names field source = .ok written) (source' : String) :
    canonicalNamedVector written names field source' = .ok written := by
  simp only [canonicalNamedVector, bind_eq_ok, raiseIf_eq_ok, pure_eq_ok] at h
  obtain ⟨item, -, _, -, fields, hfields, rfl⟩ := h
  have hfield : ∀ p ∈ fields, finiteNumber p.2 (field ++ "." ++ p.1) source' = .ok p.2 := by
    intro p hp
    obtain ⟨name, -, hname⟩ := exists_of_mapM_mem hfields hp
    simp only [bind_eq_ok, pure_eq_ok] at hname
    obtain ⟨number, hnumber, rfl⟩ := hname
    exact (finiteNumber_eq_ok hnumber _ source').2
  obtain rfl : names = fields.map Prod.fst := by
    refine ((List.map_eq_of_forall₂ (mapM_eq_ok.mp hfields) ?_).trans (List.map_id names)).symm
    intro name p hname
    simp only [bind_eq_ok, pure_eq_ok] at hname
    obtain ⟨_, -, rfl⟩ := hname
    rfl
  have hget : ∀ p ∈ fields, Fields.get? fields p.1 = some p.2 :=
    fun p hp => AList.lookup_eq_some_of_mem hnames hp
  have hitem : object (.obj fields) field source' (fields.map Prod.fst) = .ok fields := by
    rw [object, Json.asObject?]
    simp only [extra_eq_nil_of_keys (List.Subset.refl _), List.isEmpty_nil, if_true]
  have hall : ((fields.map Prod.fst).all (Fields.has fields)) = true := by
    rw [List.all_eq_true]
    intro key hkey
    obtain ⟨p, hp, rfl⟩ := List.mem_map.mp hkey
    rw [Fields.has, hget p hp]
    rfl
  have hread : (fields.map Prod.fst).mapM (fun name => do
      return (name, ← finiteNumber (Fields.getD fields name) (field ++ "." ++ name) source')) =
      .ok fields := by
    refine mapM_map_list fun p hp => ?_
    rw [Fields.getD, hget p hp, Option.getD_some, hfield p hp]
    rfl
  simp only [canonicalNamedVector, hitem, bind, Except.bind, hall] at hread ⊢
  simp only [Bool.not_true, raiseIf, Bool.false_eq_true, if_false, hread]
  rfl

/-- **The canonical pose is kept.** -/
theorem applyLocatedInPose_self {record placed exported : Fields} {target_type source : String}
    (h : applyLocatedInPose record target_type source = .ok placed)
    (hexported : SameFields exported placed) (source' : String) :
    applyLocatedInPose exported target_type source' = .ok exported := by
  have hhas : exported.has = placed.has := by
    funext key
    rw [Fields.has, hexported, Fields.has]
  have hframe : placed.get? "frame_id" = record.get? "frame_id" :=
    applyLocatedInPose_get? h (by decide)
  simp only [applyLocatedInPose, bind_eq_ok, raiseIf_eq_ok] at h
  obtain ⟨_, hnone, h⟩ := h
  have hnone' : placed.has "frame_id" = false := by rw [Fields.has, hframe]; exact hnone
  simp only [applyLocatedInPose, hhas, hnone', raiseIf, Bool.false_eq_true, if_false, bind,
    Except.bind]
  split at h
  case isTrue hplain =>
    obtain rfl := Except.ok.inj h
    rw [if_pos hplain]
    rfl
  case isFalse hposed =>
    simp only [bind_eq_ok, raiseIf_eq_ok] at h
    obtain ⟨_, hspace, middle, hposition, horientation⟩ := h
    -- a pose that was written is there again
    have hpresent : POSE_FIELDS.any placed.has = true := by
      rw [rewriteField_has horientation, rewriteField_has hposition]
      simpa using hposed
    have hkept : rewriteField exported "position" (fun value =>
        canonicalNamedVector value ["x", "y", "z"] "position" source') = .ok exported :=
      rewriteField_eq hposition ((hexported _).trans (rewriteField_get? horientation (by decide)))
        fun value written hwritten => canonicalNamedVector_self (by decide) hwritten source'
    have hkept' : rewriteField exported "orientation" (fun value =>
        canonicalNamedVector value ["pitch", "roll", "yaw"] "orientation" source') = .ok exported :=
      rewriteField_eq horientation (hexported _)
        fun value written hwritten => canonicalNamedVector_self (by decide) hwritten source'
    simp only [hpresent, Bool.not_true, Bool.false_eq_true, if_false, hspace, hkept, hkept']

/-! ### All spatial records -/

/-- **Spatial records are read back, and their canonical form is kept.**  Every parsed body,
sample, pose and anchor is the value of its own mapping.  What ingestion made of a space and of
a placement it accepts again, from any file and in any order of the fields, and leaves as it
is. -/
theorem spatial_records_reread :
    (∀ value embodiment, embodimentFromMapping value = .ok embodiment →
      ∀ record, SameFields record (embodimentAsMapping embodiment) →
        embodimentFromMapping (.obj record) = .ok embodiment) ∧
    (∀ value telemetry, physicalTelemetryFromMapping value = .ok telemetry →
      ∃ mapping, physicalTelemetryAsMapping telemetry = .ok mapping ∧
        physicalTelemetryFromMapping mapping = .ok telemetry) ∧
    (∀ value pose, parseRuntimePose value = .ok (some pose) →
      parseRuntimePose (toJson (runtimePoseAsMapping pose)) = .ok (some pose)) ∧
    (∀ value space anchor, parseSurveyedAnchor value space = .ok anchor →
      ∀ given ∈ [Json.null, .str anchor.space],
        parseSurveyedAnchor (surveyedAnchorAsMapping anchor) given = .ok anchor) ∧
    (∀ record source placed id, record.get? "id" = some (.str id) → isTypedId "space" id = true →
      applySpaceSpatialFields record source = .ok placed →
      ∀ exported, SameFields exported placed → ∀ file,
        applySpaceSpatialFields exported file = .ok exported) ∧
    (∀ record target_type source placed, applyLocatedInPose record target_type source = .ok placed →
      ∀ exported, SameFields exported placed → ∀ file,
        applyLocatedInPose exported target_type file = .ok exported) := by
  refine ⟨fun _ _ h _ hrecord => embodimentFromMapping_self h hrecord,
    fun _ _ h => physicalTelemetryFromMapping_self h,
    fun _ _ h => parseRuntimePose_toJson (consistent_of_parseRuntimePose h), ?_, ?_,
    fun _ _ _ _ h _ hexported file => applyLocatedInPose_self h hexported file⟩
  · intro value space anchor h given hgiven
    refine parseSurveyedAnchor_mapping (wellFormed_of_parse h).1 ?_
    rcases List.mem_pair.mp hgiven with rfl | rfl
    · exact .inr rfl
    · exact .inl rfl
  · intro record source placed id hid htyped h exported hexported file
    have hfilled : id ≠ "" := by
      rintro rfl
      exact absurd htyped (by decide)
    exact applySpaceSpatialFields_self hid hfilled h hexported file

/-- A space with its unit spelled out, legacy axes and an anchor measured in inches. -/
def surveyedHall : Fields := [
  ("id", .str "space:hall"),
  ("coordinate", .obj [("unit", .str "Metres"), ("x_axis", .arr [.int 0, .int 2, .int 0]),
    ("y_axis", .arr [.int (-2), .int 0, .int 0]), ("z_axis", .str "up"),
    ("anchors", .arr [.obj [("id", .str "anchor:door"), ("kind", .str "dock"),
      ("position", .obj [("x", .obj [("value", .int 10), ("unit", .str "in")]),
        ("y", .obj [("ft", .int 3)]), ("z", .int 0)])]])])]

/-- The hypotheses are satisfiable, and the canonical form differs from what was written. -/
theorem spatial_records_reread_hall :
    ∃ placed, applySpaceSpatialFields surveyedHall "hall.json" = .ok placed ∧
      placed ≠ surveyedHall ∧
      ∀ file, applySpaceSpatialFields placed file = .ok placed := by
  have haccepted : (applySpaceSpatialFields surveyedHall "hall.json").isOk = true := by
    decide +kernel
  have hchanged : applySpaceSpatialFields surveyedHall "hall.json" ≠ .ok surveyedHall := by
    decide +kernel
  obtain ⟨placed, hplaced⟩ := exists_of_isOk haccepted
  refine ⟨placed, hplaced, fun heq => hchanged (by rw [hplaced, heq]), ?_⟩
  exact spatial_records_reread.2.2.2.2.1 surveyedHall "hall.json" placed "space:hall" rfl
    (by decide) hplaced placed (fun _ => rfl)

end Spatial
end HomeCortex
