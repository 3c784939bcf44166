/-
# Localization in exact arithmetic

`spatial/localization/solver.py` over an ordered field, with any functions for those of `math`.
A pose is solved from the observations of anchors that are surveyed in the space: each gives a
sample, and the samples are fused with the confidences as weights.  The catalog and everything
that is computed from the used observations do not depend on their order or on other evidence
(`solutionOf_perm`); the timestamp is the greatest text, which is the latest instant only where
texts and instants agree (`localization_exact_iff`).
-/

import HomeCortex.Common.Datetimes
import HomeCortex.Library.Checked
import HomeCortex.Library.Extremes
import HomeCortex.Spatial.ExactTransforms
import HomeCortex.Spatial.RuntimePose

namespace HomeCortex
namespace Spatial
namespace Exact

/-- `SurveyedAnchor`, as far as the solver reads it. -/
structure SurveyedAnchor (K : Type) where
  id : String
  space : String
  position : Position K
  orientation : Option (Orientation K)
  uncertainty_m : Option K

/-- A timestamp with an offset. -/
def hasOffset (text : String) : Bool :=
  ((datetimeFromIsoformat text).bind PyDatetime.offset).isSome

/-- The instant of a timestamp. -/
def instantOfText (text : String) : Int :=
  ((datetimeFromIsoformat text).map PyDatetime.utcMicros).getD 0

/-- `FiducialObservation`, as `parse_fiducial_observation` makes it of a timestamp with an
offset. -/
structure FiducialObservation (K : Type) [Zero K] [One K] [LE K] where
  anchor_id : String
  pose : Pose K
  timestamp : String
  confidence : Option K
  token : isLocalAnchorId anchor_id = true
  aware : hasOffset timestamp = true
  unit : ∀ c ∈ confidence, 0 ≤ c ∧ c ≤ 1

/-- `PoseUncertainty`; the solver states no pitch and no roll. -/
structure PoseUncertainty (K : Type) where
  x_sigma : Option K
  y_sigma : Option K
  z_sigma : Option K
  yaw_sigma : Option K
deriving DecidableEq

/-- `RuntimePose`. -/
structure RuntimePose (K : Type) where
  agent : String
  space : String
  quality : LocalizationQuality
  estimate : Option (Pose K)
  timestamp : Option String
  source : Option String
  uncertainty : Option (PoseUncertainty K)
deriving DecidableEq

/-- `LocalizationSolution`. -/
structure LocalizationSolution (K : Type) where
  pose : RuntimePose K
  samples : List (Pose K)
  translation_rmse_m : Option K
  yaw_rmse_rad : Option K
deriving DecidableEq

/-- `global_anchor_id`. -/
def globalAnchorId (space localId : String) : String := space ++ "#" ++ localId

section Solver

variable {K : Type} [Field K] [LinearOrder K]

/-- An anchor in the catalog, under both of its ids. -/
def addAnchor (catalog : AList fun _ : String => SurveyedAnchor K) (anchor : SurveyedAnchor K) :
    AList fun _ : String => SurveyedAnchor K :=
  (catalog.insert anchor.id anchor).insert (globalAnchorId anchor.space anchor.id) anchor

/-- `_anchor_catalog`: the anchors of the space. -/
def anchorCatalog (anchors : List (SurveyedAnchor K)) (space : String) :
    AList fun _ : String => SurveyedAnchor K :=
  (anchors.filter fun anchor => anchor.space = space).foldl addAnchor ∅

/-- `_surveyed_pose`. -/
def surveyedPose (anchor : SurveyedAnchor K) : Except PyError (Pose K) :=
  match anchor.orientation with
  | some orientation => .ok ⟨anchor.position, orientation⟩
  | none => .error (.spatialContract ("localization requires orientation on " ++ anchor.id))

section Fusion

variable [FloorRing K] (math : MathFunctions K)

/-- `_body_in_space`. -/
def bodyInSpace (anchor : SurveyedAnchor K) (anchorInCamera cameraInBody : Pose K) :
    Except PyError (Pose K) := do
  let surveyed ← surveyedPose anchor
  let cameraInSpace := composePose math surveyed (invertPose math anchorInCamera)
  return composePose math cameraInSpace (invertPose math cameraInBody)

/-- `sum(w * v for w, v in zip(weights, values))`. -/
def weightedSum (weights values : List K) : K :=
  ((weights.zip values).map fun pair => pair.1 * pair.2).sum

/-- `_circular_mean`. -/
def circularMean (angles weights : List K) : K :=
  math.atan2 (weightedSum weights (angles.map math.sin) / weights.sum)
    (weightedSum weights (angles.map math.cos) / weights.sum)

/-- `_fuse_poses`; equal weights where all confidences are zero. -/
def fusePoses (samples : List (Pose K)) (observations : List (FiducialObservation K)) : Pose K :=
  let confidences := observations.map fun observation => observation.confidence.getD 1
  let weights := if confidences.sum ≤ 0 then samples.map fun _ => 1 else confidences
  let total := if confidences.sum ≤ 0 then (samples.length : K) else confidences.sum
  let mean (value : Pose K → K) : K := weightedSum weights (samples.map value) / total
  let circular (value : Pose K → K) : K := circularMean math (samples.map value) weights
  ⟨⟨mean (·.position.x), mean (·.position.y), mean (·.position.z)⟩,
    ⟨circular (·.orientation.yaw), circular (·.orientation.pitch),
      circular (·.orientation.roll)⟩⟩

/-- `a % b` of floats. -/
def floatMod (a b : K) : K := a - b * ⌊a / b⌋

/-- `_wrap`. -/
def wrap (angle : K) : K := floatMod (angle + math.pi) ((2 : Nat) * math.pi) - math.pi

/-- `math.dist`. -/
def dist (a b : Position K) : K :=
  math.sqrt ((a.x - b.x) ^ 2 + (a.y - b.y) ^ 2 + (a.z - b.z) ^ 2)

/-- The root of the mean of the squares. -/
def rootMeanSquare (values : List K) : K :=
  math.sqrt ((values.map fun value => value * value).sum / values.length)

/-- `_residuals`, of the translation and of the yaw. -/
def residuals (fused : Pose K) (samples : List (Pose K)) : K × K :=
  (rootMeanSquare math (samples.map fun item => dist math fused.position item.position),
    rootMeanSquare math (samples.map fun item =>
      wrap math (item.orientation.yaw - fused.orientation.yaw)))

/-- `LOCALIZED_TRANSLATION_M`. -/
def LOCALIZED_TRANSLATION_M : K := 1 / 20

/-- `LOCALIZED_YAW_RAD`: five degrees. -/
def LOCALIZED_YAW_RAD : K := 5 * math.pi / 180

/-- `_quality`. -/
def qualityOf (translationRmse yawRmse : K) : LocalizationQuality :=
  if translationRmse ≤ LOCALIZED_TRANSLATION_M ∧ yawRmse ≤ LOCALIZED_YAW_RAD math then .localized
  else .degraded

/-- `_sample_std`. -/
def sampleStd (values : List K) : K :=
  let mean := values.sum / values.length
  math.sqrt ((values.map fun value => (value - mean) ^ 2).sum / ((values.length : K) - 1))

/-- `_circular_std`. -/
def circularStd (angles : List K) : K :=
  let mean := circularMean math angles (angles.map fun _ => 1)
  sampleStd math (angles.map fun angle => wrap math (angle - mean))

/-- `_uncertainty`. -/
def uncertaintyOf (samples : List (Pose K)) (surveyFloor : Option K) :
    Option (PoseUncertainty K) :=
  if samples.length = 1 then
    surveyFloor.map fun floor => ⟨some floor, some floor, some floor, none⟩
  else some ⟨some (sampleStd math (samples.map (·.position.x))),
    some (sampleStd math (samples.map (·.position.y))),
    some (sampleStd math (samples.map (·.position.z))),
    some (circularStd math (samples.map (·.orientation.yaw)))⟩

/-- `min(values)`, or `None`. -/
def least? : List K → Option K
  | [] => none
  | value :: values => some (values.foldl min value)

/-- `max(values)` of texts; the empty text is never reached. -/
def greatestText : List String → String
  | [] => ""
  | text :: texts => texts.foldl max text

/-- `_survey_floor`. -/
def surveyFloor (observations : List (FiducialObservation K))
    (catalog : AList fun _ : String => SurveyedAnchor K) : Option K :=
  least? (observations.filterMap fun observation =>
    (catalog.lookup observation.anchor_id).bind fun anchor => anchor.uncertainty_m)

/-- `timestamp or max(texts)`. -/
def stampOf (timestamp : Option String) (texts : List String) : String :=
  if timestamp.getD "" = "" then greatestText texts else timestamp.getD ""

/-- `localize_from_fiducials`. -/
def localizeFromFiducials (agent space : String) (anchors : List (SurveyedAnchor K))
    (observations : List (FiducialObservation K)) (cameraInBody : Pose K)
    (timestamp : Option String) : Except PyError (LocalizationSolution K) := do
  let catalog := anchorCatalog anchors space
  let known := observations.filterMap fun observation =>
    (catalog.lookup observation.anchor_id).map fun anchor => (observation, anchor)
  let samples ← known.mapM fun pair => bodyInSpace math pair.2 pair.1.pose cameraInBody
  if samples = [] then
    return ⟨⟨agent, space, .lost, none, none, none, none⟩, [], none, none⟩
  else
    let used := known.map Prod.fst
    let fused := fusePoses math samples used
    let (translationRmse, yawRmse) := residuals math fused samples
    return ⟨⟨agent, space, qualityOf math translationRmse yawRmse, some fused,
      some (stampOf timestamp (used.map (·.timestamp))), some "surveyed_fiducials",
      uncertaintyOf math samples (surveyFloor used catalog)⟩,
      samples, some translationRmse, some yawRmse⟩

/-! ### The order of the evidence -/

section Orders

variable {α : Type} {xs ys : List α} (hperm : xs.Perm ys)

include hperm

omit [LinearOrder K] [FloorRing K] in
theorem weightedSum_perm (w v : α → K) :
    weightedSum (xs.map w) (xs.map v) = weightedSum (ys.map w) (ys.map v) := by
  rw [weightedSum, weightedSum, List.zip_map', List.zip_map', List.map_map, List.map_map]
  exact (hperm.map _).sum_eq

omit [LinearOrder K] [FloorRing K] in
theorem circularMean_perm (angle w : α → K) :
    circularMean math (xs.map angle) (xs.map w) = circularMean math (ys.map angle) (ys.map w) := by
  rw [circularMean, circularMean, (hperm.map w).sum_eq, List.map_map, List.map_map, List.map_map,
    List.map_map, weightedSum_perm hperm w (math.sin ∘ angle),
    weightedSum_perm hperm w (math.cos ∘ angle)]

omit [LinearOrder K] [FloorRing K] in
theorem rootMeanSquare_perm (value : α → K) :
    rootMeanSquare math (xs.map value) = rootMeanSquare math (ys.map value) := by
  rw [rootMeanSquare, rootMeanSquare, List.map_map, List.map_map, (hperm.map _).sum_eq,
    (hperm.map value).length_eq]

omit [LinearOrder K] [FloorRing K] in
theorem sampleStd_perm (value : α → K) :
    sampleStd math (xs.map value) = sampleStd math (ys.map value) := by
  rw [sampleStd, sampleStd, (hperm.map value).sum_eq, (hperm.map value).length_eq, List.map_map,
    List.map_map, (hperm.map _).sum_eq]

theorem circularStd_perm (angle : α → K) :
    circularStd math (xs.map angle) = circularStd math (ys.map angle) := by
  simp only [circularStd, List.map_map]
  rw [circularMean_perm math hperm, sampleStd_perm math hperm]

omit hperm in
/-- `_residuals` of the samples in another order. -/
theorem residuals_perm {samples samples' : List (Pose K)} (h : samples.Perm samples')
    (fused : Pose K) : residuals math fused samples = residuals math fused samples' := by
  rw [residuals, residuals, rootMeanSquare_perm math h, rootMeanSquare_perm math h]

omit hperm in
/-- `_uncertainty` of the samples in another order. -/
theorem uncertaintyOf_perm {samples samples' : List (Pose K)} (h : samples.Perm samples')
    (floor : Option K) : uncertaintyOf math samples floor = uncertaintyOf math samples' floor := by
  rw [uncertaintyOf, uncertaintyOf, h.length_eq, sampleStd_perm math h, sampleStd_perm math h,
    sampleStd_perm math h, circularStd_perm math h]

omit [Field K] [FloorRing K] hperm in
theorem least?_perm {values values' : List K} (h : values.Perm values') :
    least? values = least? values' := by
  cases values with
  | nil => rw [List.nil_perm.mp h]
  | cons value values =>
      cases values' with
      | nil => exact absurd (List.perm_nil.mp h) (List.cons_ne_nil _ _)
      | cons value' values' =>
          exact congrArg some (Extremes.picks_min.foldl_eq_of_perm (fun _ _ => le_antisymm) h)

end Orders

omit [FloorRing K] in
/-- `_fuse_poses` of the used observations in another order. -/
theorem fusePoses_perm {α : Type} {xs ys : List α} (hperm : xs.Perm ys) (sample : α → Pose K)
    (observation : α → FiducialObservation K) :
    fusePoses math (xs.map sample) (xs.map observation) =
      fusePoses math (ys.map sample) (ys.map observation) := by
  have hweights : ∀ zs : List α,
      (if ((zs.map observation).map fun o => o.confidence.getD 1).sum ≤ 0 then
        (zs.map sample).map fun _ => (1 : K)
      else (zs.map observation).map fun o => o.confidence.getD 1) =
        zs.map fun z => if ((zs.map observation).map fun o => o.confidence.getD 1).sum ≤ 0 then 1
          else (observation z).confidence.getD 1 := by
    intro zs
    rw [List.map_map, List.map_map]
    split <;> rfl
  have hsum := ((hperm.map observation).map fun o => o.confidence.getD 1).sum_eq
  have hlength := (hperm.map sample).length_eq
  rw [fusePoses, fusePoses, hweights, hweights, hsum, hlength]
  simp only [List.map_map]
  rw [weightedSum_perm hperm, weightedSum_perm hperm, weightedSum_perm hperm,
    circularMean_perm math hperm, circularMean_perm math hperm, circularMean_perm math hperm]

/-! ### The used evidence -/

/-- An observation is of an anchor of the space. -/
def isKnown (anchors : List (SurveyedAnchor K)) (space : String)
    (observation : FiducialObservation K) : Bool :=
  anchors.any fun anchor => anchor.space = space && anchor.id = observation.anchor_id

omit [Field K] [LinearOrder K] [FloorRing K] in
/-- The catalog depends on the anchors of the space only. -/
theorem anchorCatalog_congr {anchors anchors' : List (SurveyedAnchor K)} {space : String}
    (h : anchors.filter (fun anchor => anchor.space = space) =
      anchors'.filter fun anchor => anchor.space = space) :
    anchorCatalog anchors space = anchorCatalog anchors' space := by
  rw [anchorCatalog, anchorCatalog, h]

omit [Field K] [LinearOrder K] [FloorRing K] in
/-- The keys of the catalog are the two ids of each anchor. -/
theorem mem_foldl_addAnchor {anchors : List (SurveyedAnchor K)} {key : String}
    (catalog : AList fun _ : String => SurveyedAnchor K) :
    key ∈ anchors.foldl addAnchor catalog ↔ key ∈ catalog ∨ ∃ anchor ∈ anchors,
      anchor.id = key ∨ globalAnchorId anchor.space anchor.id = key := by
  induction anchors generalizing catalog with
  | nil => simp
  | cons anchor anchors ih =>
      rw [List.foldl_cons, ih, addAnchor, AList.mem_insert, AList.mem_insert,
        @eq_comm _ key (globalAnchorId _ _), @eq_comm _ key anchor.id]
      simp only [List.mem_cons, exists_eq_or_imp]
      constructor
      · rintro ((h | h | h) | h)
        · exact .inr (.inl (.inr h))
        · exact .inr (.inl (.inl h))
        · exact .inl h
        · exact .inr (.inr h)
      · rintro (h | (h | h) | h)
        · exact .inl (.inr (.inr h))
        · exact .inl (.inr (.inl h))
        · exact .inl (.inl h)
        · exact .inr h

omit [Field K] [LinearOrder K] [FloorRing K] in
/-- What the catalog holds is one of the anchors. -/
theorem lookup_foldl_addAnchor {anchors : List (SurveyedAnchor K)} {key : String}
    {catalog : AList fun _ : String => SurveyedAnchor K} {found : SurveyedAnchor K}
    (h : (anchors.foldl addAnchor catalog).lookup key = some found) :
    catalog.lookup key = some found ∨ found ∈ anchors := by
  induction anchors generalizing catalog with
  | nil => exact .inl h
  | cons anchor anchors ih =>
      have hadd : ∀ {found}, (addAnchor catalog anchor).lookup key = some found →
          catalog.lookup key = some found ∨ found = anchor := by
        intro found hfound
        rw [addAnchor] at hfound
        by_cases hglobal : key = globalAnchorId anchor.space anchor.id
        · subst hglobal
          rw [AList.lookup_insert] at hfound
          exact .inr (Option.some.inj hfound).symm
        · rw [AList.lookup_insert_ne hglobal] at hfound
          by_cases hid : key = anchor.id
          · subst hid
            rw [AList.lookup_insert] at hfound
            exact .inr (Option.some.inj hfound).symm
          · rw [AList.lookup_insert_ne hid] at hfound
            exact .inl hfound
      rcases ih h with hcatalog | hmem
      · rcases hadd hcatalog with hcatalog | rfl
        · exact .inl hcatalog
        · exact .inr List.mem_cons_self
      · exact .inr (List.mem_cons_of_mem _ hmem)

/-- A local token is no global id. -/
theorem globalAnchorId_ne {token : String} (h : isLocalAnchorId token = true)
    (space localId : String) : globalAnchorId space localId ≠ token := by
  rintro rfl
  have hmem : '#' ∈ (globalAnchorId space localId).toList := by
    simp [globalAnchorId]
  unfold isLocalAnchorId at h
  split at h
  case h_1 => cases h
  case h_2 c cs htext =>
    rw [htext] at hmem
    rw [Bool.and_eq_true, List.all_eq_true] at h
    rcases List.mem_cons.mp hmem with rfl | hmem
    · exact absurd h.1 (by decide)
    · exact absurd (h.2 _ hmem) (by decide)

omit [FloorRing K] in
/-- **An observation is used** exactly when its anchor is one of the space. -/
theorem lookup_isSome (anchors : List (SurveyedAnchor K)) (space : String)
    (observation : FiducialObservation K) :
    ((anchorCatalog anchors space).lookup observation.anchor_id).isSome =
      isKnown anchors space observation := by
  rw [Bool.eq_iff_iff, AList.lookup_isSome, isKnown, List.any_eq_true]
  refine (mem_foldl_addAnchor ∅).trans ?_
  simp only [Bool.and_eq_true, decide_eq_true_eq]
  constructor
  · rintro (hempty | ⟨anchor, hmem, hid | hid⟩)
    · exact absurd hempty (AList.notMem_empty _)
    · obtain ⟨hmem, hspace⟩ := List.mem_filter.mp hmem
      exact ⟨anchor, hmem, of_decide_eq_true hspace, hid⟩
    · exact absurd hid (globalAnchorId_ne observation.token _ _)
  · rintro ⟨anchor, hmem, hspace, hid⟩
    exact .inr ⟨anchor, List.mem_filter.mpr ⟨hmem, decide_eq_true hspace⟩, .inl hid⟩

omit [Field K] [LinearOrder K] [FloorRing K] in
/-- What the catalog holds is an anchor of the space. -/
theorem lookup_mem {anchors : List (SurveyedAnchor K)} {space key : String}
    {found : SurveyedAnchor K} (h : (anchorCatalog anchors space).lookup key = some found) :
    found ∈ anchors ∧ found.space = space := by
  rcases lookup_foldl_addAnchor h with hempty | hmem
  · cases hempty
  · obtain ⟨hmem, hspace⟩ := List.mem_filter.mp hmem
    exact ⟨hmem, of_decide_eq_true hspace⟩

/-- The used observations with their anchors. -/
def usedEvidence (anchors : List (SurveyedAnchor K)) (space : String)
    (observations : List (FiducialObservation K)) :
    List (FiducialObservation K × SurveyedAnchor K) :=
  observations.filterMap fun observation =>
    ((anchorCatalog anchors space).lookup observation.anchor_id).map fun anchor =>
      (observation, anchor)

/-- The sample of an observation of an oriented anchor. -/
def sampleOf (cameraInBody : Pose K)
    (evidence : FiducialObservation K × SurveyedAnchor K) : Pose K :=
  composePose math (composePose math ⟨evidence.2.position, evidence.2.orientation.getD ⟨0, 0, 0⟩⟩
    (invertPose math evidence.1.pose)) (invertPose math cameraInBody)

/-- The solution from the used observations. -/
def solutionOf (agent space : String) (cameraInBody : Pose K) (timestamp : Option String)
    (evidence : List (FiducialObservation K × SurveyedAnchor K)) : LocalizationSolution K :=
  let samples := evidence.map (sampleOf math cameraInBody)
  let used := evidence.map Prod.fst
  let fused := fusePoses math samples used
  let rmse := residuals math fused samples
  if samples = [] then ⟨⟨agent, space, .lost, none, none, none, none⟩, [], none, none⟩
  else ⟨⟨agent, space, qualityOf math rmse.1 rmse.2, some fused,
    some (stampOf timestamp (used.map (·.timestamp))), some "surveyed_fiducials",
    uncertaintyOf math samples (least? (evidence.filterMap fun pair => pair.2.uncertainty_m))⟩,
    samples, some rmse.1, some rmse.2⟩

/-- **Localization from the used evidence.** -/
theorem localizeFromFiducials_eq (agent : String) {space : String}
    {anchors : List (SurveyedAnchor K)} (horiented : ∀ anchor ∈ anchors, anchor.space = space →
      anchor.orientation.isSome) (observations : List (FiducialObservation K))
    (cameraInBody : Pose K) (timestamp : Option String) :
    localizeFromFiducials math agent space anchors observations cameraInBody timestamp =
      .ok (solutionOf math agent space cameraInBody timestamp
        (usedEvidence anchors space observations)) := by
  have hlookup : ∀ pair ∈ usedEvidence anchors space observations,
      (anchorCatalog anchors space).lookup pair.1.anchor_id = some pair.2 := by
    intro pair hpair
    obtain ⟨observation, -, hpair⟩ := List.mem_filterMap.mp hpair
    obtain ⟨anchor, hanchor, rfl⟩ := Option.map_eq_some_iff.mp hpair
    exact hanchor
  have hsamples : (usedEvidence anchors space observations).mapM (fun pair =>
      bodyInSpace math pair.2 pair.1.pose cameraInBody) =
        .ok ((usedEvidence anchors space observations).map (sampleOf math cameraInBody)) := by
    refine Except.mapM_eq_ok.mpr (List.forall₂_map_right_iff.mpr
      (List.forall₂_same.mpr fun pair hpair => ?_))
    obtain ⟨hmem, hspace⟩ := lookup_mem (hlookup pair hpair)
    obtain ⟨orientation, horientation⟩ :=
      Option.isSome_iff_exists.mp (horiented pair.2 hmem hspace)
    rw [bodyInSpace, surveyedPose, horientation, sampleOf, horientation]
    rfl
  have hfloor : surveyFloor ((usedEvidence anchors space observations).map Prod.fst)
      (anchorCatalog anchors space) = least? ((usedEvidence anchors space observations).filterMap
        fun pair => pair.2.uncertainty_m) := by
    rw [surveyFloor, List.filterMap_map]
    refine congrArg least? (List.filterMap_congr fun pair hpair => ?_)
    rw [Function.comp_apply, hlookup pair hpair]
    rfl
  rw [localizeFromFiducials, solutionOf]
  refine Except.bind_eq_ok.mpr ⟨_, hsamples, ?_⟩
  dsimp only
  split
  case isTrue => rfl
  case isFalse =>
    rw [← hfloor]
    rfl

omit [FloorRing K] in
/-- The used observations are the known ones. -/
theorem usedEvidence_fst (anchors : List (SurveyedAnchor K)) (space : String)
    (observations : List (FiducialObservation K)) :
    (usedEvidence anchors space observations).map Prod.fst =
      observations.filter (isKnown anchors space) := by
  induction observations with
  | nil => rfl
  | cons observation observations ih =>
      have hsome := lookup_isSome anchors space observation
      rw [usedEvidence, List.filterMap_cons, List.filter_cons, ← hsome]
      cases (anchorCatalog anchors space).lookup observation.anchor_id with
      | none => exact ih
      | some anchor => exact congrArg (observation :: ·) ih

omit [FloorRing K] in
/-- Other evidence and another order give the same used evidence up to its order. -/
theorem usedEvidence_perm {anchors anchors' : List (SurveyedAnchor K)} {space : String}
    {observations observations' : List (FiducialObservation K)}
    (hanchors : anchors.filter (fun anchor => anchor.space = space) =
      anchors'.filter fun anchor => anchor.space = space)
    (hobservations : (observations.filter (isKnown anchors space)).Perm
      (observations'.filter (isKnown anchors space))) :
    (usedEvidence anchors space observations).Perm
      (usedEvidence anchors' space observations') := by
  have hfilter : ∀ observations : List (FiducialObservation K),
      usedEvidence anchors space (observations.filter (isKnown anchors space)) =
        usedEvidence anchors space observations := by
    intro observations
    rw [usedEvidence, usedEvidence, List.filterMap_filter]
    refine List.filterMap_congr fun observation _ => ?_
    rw [← lookup_isSome]
    cases (anchorCatalog anchors space).lookup observation.anchor_id <;> rfl
  have hcatalog : usedEvidence anchors' space observations' =
      usedEvidence anchors space observations' := by
    rw [usedEvidence, usedEvidence, anchorCatalog_congr hanchors]
  rw [hcatalog, ← hfilter observations, ← hfilter observations']
  exact hobservations.filterMap _

/-- Two solutions with the same quality, estimate, uncertainty and residuals. -/
structure SameFindings (a b : LocalizationSolution K) : Prop where
  quality : a.pose.quality = b.pose.quality
  estimate : a.pose.estimate = b.pose.estimate
  uncertainty : a.pose.uncertainty = b.pose.uncertainty
  translation : a.translation_rmse_m = b.translation_rmse_m
  yaw : a.yaw_rmse_rad = b.yaw_rmse_rad

/-- **The order of the used evidence does not matter.** -/
theorem solutionOf_perm (agent space : String) (cameraInBody : Pose K)
    (timestamp : Option String)
    {evidence evidence' : List (FiducialObservation K × SurveyedAnchor K)}
    (h : evidence.Perm evidence') :
    SameFindings (solutionOf math agent space cameraInBody timestamp evidence)
      (solutionOf math agent space cameraInBody timestamp evidence') := by
  have hsamples := h.map (sampleOf math cameraInBody)
  have hfused := fusePoses_perm math h (sampleOf math cameraInBody) Prod.fst
  have hresiduals := residuals_perm math hsamples (fusePoses math
    (evidence'.map (sampleOf math cameraInBody)) (evidence'.map Prod.fst))
  have hfloor := least?_perm (h.filterMap fun pair => pair.2.uncertainty_m)
  have huncertainty := uncertaintyOf_perm math hsamples
    (least? (evidence'.filterMap fun pair => pair.2.uncertainty_m))
  have hempty : evidence.map (sampleOf math cameraInBody) = [] ↔
      evidence'.map (sampleOf math cameraInBody) = [] := by
    rw [← List.length_eq_zero_iff, ← List.length_eq_zero_iff, hsamples.length_eq]
  unfold solutionOf
  dsimp only
  rw [hfused, hresiduals, hfloor, huncertainty]
  by_cases hnil : evidence'.map (sampleOf math cameraInBody) = []
  · rw [if_pos hnil, if_pos (hempty.mpr hnil)]
    exact ⟨rfl, rfl, rfl, rfl, rfl⟩
  · rw [if_neg hnil, if_neg fun h => hnil (hempty.mp h)]
    exact ⟨rfl, rfl, rfl, rfl, rfl⟩

end Fusion

/-! ### Between the samples -/

section Between

variable [IsStrictOrderedRing K]

/-- **A weighted mean** lies between two of the values. -/
theorem weightedSum_between {α : Type} {xs : List α} (hne : xs ≠ []) (w v : α → K)
    (hw : ∀ x ∈ xs, 0 ≤ w x) (htotal : 0 < (xs.map w).sum) :
    ∃ low ∈ xs, ∃ high ∈ xs,
      v low ≤ weightedSum (xs.map w) (xs.map v) / (xs.map w).sum ∧
        weightedSum (xs.map w) (xs.map v) / (xs.map w).sum ≤ v high := by
  have hsum : weightedSum (xs.map w) (xs.map v) = (xs.map fun x => w x * v x).sum := by
    rw [weightedSum, List.zip_map', List.map_map]
    rfl
  obtain ⟨x, rest, rfl⟩ := List.exists_cons_of_ne_nil hne
  have hmin : (rest.map v).foldl min (v x) ∈ (x :: rest).map v :=
    Extremes.picks_min.foldl_mem _ _
  have hmax : (rest.map v).foldl max (v x) ∈ (x :: rest).map v :=
    Extremes.picks_max.foldl_mem _ _
  obtain ⟨low, hlow, hmin⟩ := List.mem_map.mp hmin
  obtain ⟨high, hhigh, hmax⟩ := List.mem_map.mp hmax
  have hleast : ∀ y ∈ x :: rest, v low ≤ v y := by
    intro y hy
    rw [hmin]
    exact Extremes.picks_min.foldl_extreme _ _ _ (List.mem_map_of_mem (f := v) hy)
  have hgreatest : ∀ y ∈ x :: rest, v y ≤ v high := by
    intro y hy
    rw [hmax]
    exact Extremes.picks_max.foldl_extreme _ _ _ (List.mem_map_of_mem (f := v) hy)
  refine ⟨low, hlow, high, hhigh, ?_, ?_⟩
  · rw [le_div_iff₀ htotal, hsum, mul_comm, ← List.sum_map_mul_right]
    exact List.sum_le_sum fun y hy => mul_le_mul_of_nonneg_left (hleast y hy) (hw y hy)
  · rw [div_le_iff₀ htotal, hsum, mul_comm, ← List.sum_map_mul_right]
    exact List.sum_le_sum fun y hy => mul_le_mul_of_nonneg_left (hgreatest y hy) (hw y hy)

/-- **The fused position** lies between the samples. -/
theorem fusePoses_between (math : MathFunctions K) {α : Type} {xs : List α} (hne : xs ≠ [])
    (sample : α → Pose K) (observation : α → FiducialObservation K) (axis : Axis) :
    ∃ low ∈ xs.map sample, ∃ high ∈ xs.map sample,
      low.position.along axis ≤
          (fusePoses math (xs.map sample) (xs.map observation)).position.along axis ∧
        (fusePoses math (xs.map sample) (xs.map observation)).position.along axis ≤
          high.position.along axis := by
  let confidence (x : α) : K := (observation x).confidence.getD 1
  have hconfidence : ∀ x, 0 ≤ confidence x := by
    intro x
    cases hc : (observation x).confidence with
    | none =>
        show 0 ≤ (observation x).confidence.getD 1
        rw [hc]
        exact zero_le_one
    | some c =>
        show 0 ≤ (observation x).confidence.getD 1
        rw [hc]
        exact ((observation x).unit c hc).1
  have hmean : (fusePoses math (xs.map sample) (xs.map observation)).position.along axis =
      if (xs.map confidence).sum ≤ 0 then
        weightedSum (xs.map fun _ => (1 : K)) (xs.map fun x => (sample x).position.along axis) /
          (xs.map fun _ => (1 : K)).sum
      else weightedSum (xs.map confidence) (xs.map fun x => (sample x).position.along axis) /
          (xs.map confidence).sum := by
    have hlength : (xs.map fun _ => (1 : K)).sum = (xs.map sample).length := by simp
    rw [fusePoses, hlength]
    simp only [List.map_map, Function.comp_def]
    cases axis <;> split <;> rfl
  rw [hmean]
  split
  case isTrue =>
    obtain ⟨low, hlow, high, hhigh, hbetween⟩ := weightedSum_between hne (fun _ => (1 : K))
      (fun x => (sample x).position.along axis) (fun _ _ => zero_le_one) (by
        obtain ⟨x, rest, rfl⟩ := List.exists_cons_of_ne_nil hne
        simp
        positivity)
    exact ⟨_, List.mem_map_of_mem hlow, _, List.mem_map_of_mem hhigh, hbetween⟩
  case isFalse hpos =>
    obtain ⟨low, hlow, high, hhigh, hbetween⟩ := weightedSum_between hne confidence
      (fun x => (sample x).position.along axis) (fun x _ => hconfidence x) (not_le.mp hpos)
    exact ⟨_, List.mem_map_of_mem hlow, _, List.mem_map_of_mem hhigh, hbetween⟩

end Between

/-! ### The timestamp -/

/-- Where a text is the greatest, its instant is the latest. -/
def TextsFollowInstants (observations : List (FiducialObservation K)) : Prop :=
  ∀ observation ∈ observations,
    (∀ other ∈ observations, other.timestamp ≤ observation.timestamp) →
      ∀ other ∈ observations,
        instantOfText other.timestamp ≤ instantOfText observation.timestamp

/-- A text is the timestamp of an observation whose instant is the latest. -/
def IsLatest (observations : List (FiducialObservation K)) (text : String) : Prop :=
  ∃ observation ∈ observations, text = observation.timestamp ∧
    ∀ other ∈ observations, instantOfText other.timestamp ≤ instantOfText observation.timestamp

/-- **The greatest text is the latest** exactly where texts follow instants. -/
theorem isLatest_greatestText_iff {observations : List (FiducialObservation K)}
    (hne : observations ≠ []) :
    IsLatest observations (greatestText (observations.map (·.timestamp))) ↔
      TextsFollowInstants observations := by
  obtain ⟨first, rest, rfl⟩ := List.exists_cons_of_ne_nil hne
  have hmem : greatestText ((first :: rest).map (·.timestamp)) ∈
      (first :: rest).map (·.timestamp) := Extremes.picks_max.foldl_mem _ _
  have hgreatest : ∀ other ∈ first :: rest,
      other.timestamp ≤ greatestText ((first :: rest).map (·.timestamp)) :=
    fun other hother => Extremes.picks_max.foldl_extreme _ _ _
      (List.mem_map_of_mem (f := (·.timestamp)) hother)
  constructor
  · rintro ⟨observation, hobservation, htext, hlatest⟩ chosen hchosen hmost
    have heq : chosen.timestamp = observation.timestamp :=
      le_antisymm (htext ▸ hgreatest chosen hchosen) (hmost observation hobservation)
    rw [heq]
    exact hlatest
  · intro hfollow
    obtain ⟨observation, hobservation, htext⟩ := List.mem_map.mp hmem
    refine ⟨observation, hobservation, htext.symm, hfollow observation hobservation ?_⟩
    rw [htext]
    exact hgreatest

/-! ### The solution -/

section Solution

variable [IsStrictOrderedRing K] [FloorRing K] (math : MathFunctions K) (agent space : String)
  (anchors : List (SurveyedAnchor K)) (observations : List (FiducialObservation K))
  (cameraInBody : Pose K) (timestamp : Option String)

/-- A solution from the relevant evidence: anchors of other spaces, observations of unknown
anchors and the order do not matter, the position lies between the samples, and without a
given timestamp it is that of a latest used observation. -/
structure Localized (solution : LocalizationSolution K) : Prop where
  relevant : ∀ anchors' observations',
    anchors.filter (fun anchor => anchor.space = space) =
      anchors'.filter (fun anchor => anchor.space = space) →
    (observations.filter (isKnown anchors space)).Perm
      (observations'.filter (isKnown anchors space)) →
    ∃ solution', localizeFromFiducials math agent space anchors' observations' cameraInBody
      timestamp = .ok solution' ∧ SameFindings solution solution'
  between : ∀ estimate ∈ solution.pose.estimate, ∀ axis,
    ∃ low ∈ solution.samples, ∃ high ∈ solution.samples,
      low.position.along axis ≤ estimate.position.along axis ∧
        estimate.position.along axis ≤ high.position.along axis
  latest : timestamp.getD "" = "" → observations.filter (isKnown anchors space) ≠ [] →
    ∃ text, solution.pose.timestamp = some text ∧
      IsLatest (observations.filter (isKnown anchors space)) text

variable {anchors observations timestamp}
  (horiented : ∀ anchor ∈ anchors, anchor.space = space → anchor.orientation.isSome)

include horiented

omit [IsStrictOrderedRing K] in
/-- The timestamp of a solution. -/
theorem timestamp_of_localize {solution : LocalizationSolution K}
    (hsolution : localizeFromFiducials math agent space anchors observations cameraInBody
      timestamp = .ok solution) (habsent : timestamp.getD "" = "")
    (hne : observations.filter (isKnown anchors space) ≠ []) :
    solution.pose.timestamp = some (greatestText
      ((observations.filter (isKnown anchors space)).map (·.timestamp))) := by
  rw [localizeFromFiducials_eq math agent horiented] at hsolution
  rw [← usedEvidence_fst] at hne ⊢
  obtain rfl := Except.ok.inj hsolution
  have hsamples : (usedEvidence anchors space observations).map (sampleOf math cameraInBody) ≠ [] :=
    fun hnil => hne (List.map_eq_nil_iff.mpr (List.map_eq_nil_iff.mp hnil))
  rw [solutionOf, if_neg hsamples, stampOf, if_pos habsent]

/-- **When localization is exact**: a timestamp is given, or the texts of the used timestamps
follow their instants. -/
theorem localization_exact_iff :
    (∃ solution, localizeFromFiducials math agent space anchors observations cameraInBody
        timestamp = .ok solution ∧
      Localized math agent space anchors observations cameraInBody timestamp solution) ↔
    (timestamp.getD "" = "" →
      TextsFollowInstants (observations.filter (isKnown anchors space))) := by
  constructor
  · rintro ⟨solution, hsolution, hlocalized⟩ habsent
    by_cases hne : observations.filter (isKnown anchors space) = []
    · rw [hne]
      exact fun _ hmem => absurd hmem List.not_mem_nil
    · obtain ⟨text, htext, hlatest⟩ := hlocalized.latest habsent hne
      rw [timestamp_of_localize math agent space cameraInBody horiented hsolution habsent hne,
        Option.some.injEq] at htext
      exact (isLatest_greatestText_iff hne).mp (htext ▸ hlatest)
  · intro hfollow
    have hsolution := localizeFromFiducials_eq math agent horiented observations cameraInBody
      timestamp
    refine ⟨_, hsolution, fun anchors' observations' hanchors hobservations => ?_,
      fun estimate hestimate axis => ?_, fun habsent hne => ?_⟩
    · have horiented' : ∀ anchor ∈ anchors', anchor.space = space →
          anchor.orientation.isSome := by
        intro anchor hmem hspace
        have hfilter : anchor ∈ anchors'.filter fun anchor => anchor.space = space :=
          List.mem_filter.mpr ⟨hmem, decide_eq_true hspace⟩
        rw [← hanchors] at hfilter
        exact horiented anchor (List.mem_filter.mp hfilter).1 hspace
      exact ⟨_, localizeFromFiducials_eq math agent horiented' observations' cameraInBody
        timestamp, solutionOf_perm math agent space cameraInBody timestamp
          (usedEvidence_perm hanchors hobservations)⟩
    · unfold solutionOf at hestimate ⊢
      dsimp only at hestimate ⊢
      by_cases hnil : (usedEvidence anchors space observations).map
          (sampleOf math cameraInBody) = []
      · rw [if_pos hnil] at hestimate
        cases hestimate
      · rw [if_neg hnil] at hestimate ⊢
        obtain rfl := Option.some.inj hestimate
        exact fusePoses_between math (fun hempty => hnil (by rw [hempty]; rfl)) _ _ axis
    · exact ⟨_, timestamp_of_localize math agent space cameraInBody horiented hsolution habsent
        hne, (isLatest_greatestText_iff hne).mpr (hfollow habsent)⟩

end Solution

end Solver

/-! ### Two timestamps -/

/-- An anchor at the origin of a kitchen. -/
def kitchenAnchor : SurveyedAnchor ℚ := ⟨"door", "space:kitchen", ⟨0, 0, 0⟩, some ⟨0, 0, 0⟩, none⟩

/-- An observation of it at ten o'clock, two hours ahead of UTC. -/
def easternView : FiducialObservation ℚ where
  anchor_id := "door"
  pose := ⟨⟨1, 0, 0⟩, ⟨0, 0, 0⟩⟩
  timestamp := "2024-05-01T10:00:00+02:00"
  confidence := none
  token := by decide +kernel
  aware := by decide +kernel
  unit c hc := by cases hc

/-- An observation of it an hour later, at nine o'clock UTC. -/
def laterView : FiducialObservation ℚ where
  anchor_id := "door"
  pose := ⟨⟨1, 0, 0⟩, ⟨0, 0, 0⟩⟩
  timestamp := "2024-05-01T09:00:00+00:00"
  confidence := none
  token := by decide +kernel
  aware := by decide +kernel
  unit c hc := by cases hc

theorem kitchenAnchor_oriented : ∀ anchor ∈ [kitchenAnchor], anchor.space = "space:kitchen" →
    anchor.orientation.isSome := by
  intro anchor hanchor _
  rw [List.mem_singleton.mp hanchor]
  rfl

theorem localization_exact_iff_one :
    ∃ solution, localizeFromFiducials mathAtZero "agent:duck" "space:kitchen" [kitchenAnchor]
        [easternView] ⟨⟨0, 0, 0⟩, ⟨0, 0, 0⟩⟩ none = .ok solution ∧
      Localized mathAtZero "agent:duck" "space:kitchen" [kitchenAnchor] [easternView]
        ⟨⟨0, 0, 0⟩, ⟨0, 0, 0⟩⟩ none solution := by
  refine (localization_exact_iff mathAtZero "agent:duck" "space:kitchen" ⟨⟨0, 0, 0⟩, ⟨0, 0, 0⟩⟩
    kitchenAnchor_oriented).mpr fun _ observation hobservation _ other hother => ?_
  rw [List.mem_singleton.mp (List.mem_of_mem_filter hobservation),
    List.mem_singleton.mp (List.mem_of_mem_filter hother)]

theorem localization_stale : ¬ ∃ solution,
    localizeFromFiducials mathAtZero "agent:duck" "space:kitchen" [kitchenAnchor]
        [easternView, laterView] ⟨⟨0, 0, 0⟩, ⟨0, 0, 0⟩⟩ none = .ok solution ∧
      Localized mathAtZero "agent:duck" "space:kitchen" [kitchenAnchor]
        [easternView, laterView] ⟨⟨0, 0, 0⟩, ⟨0, 0, 0⟩⟩ none solution := by
  rintro ⟨solution, hsolution, hlocalized⟩
  have hknown : [easternView, laterView].filter (isKnown [kitchenAnchor] "space:kitchen") =
      [easternView, laterView] := rfl
  obtain ⟨text, htext, hlatest⟩ := hlocalized.latest rfl (by rw [hknown]; simp)
  rw [timestamp_of_localize mathAtZero "agent:duck" "space:kitchen" ⟨⟨0, 0, 0⟩, ⟨0, 0, 0⟩⟩
    kitchenAnchor_oriented hsolution rfl (by rw [hknown]; simp), hknown,
    Option.some.injEq] at htext
  rw [hknown, ← htext] at hlatest
  have hfollow := (isLatest_greatestText_iff (List.cons_ne_nil _ _)).mp hlatest
  have hlater := hfollow easternView List.mem_cons_self (by decide +kernel) laterView
    (List.mem_cons_of_mem _ List.mem_cons_self)
  exact absurd hlater (by decide +kernel)

end Exact
end Spatial
end HomeCortex
