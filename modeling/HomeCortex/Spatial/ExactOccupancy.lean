/-
# Occupancy of a body in exact arithmetic

`spatial/telemetry.py` from `embodiment_point_in_space` on and `spatial/occupancy.py`, over an
ordered field.  A point of the body goes through the rotation of its pose, the metric axes of
the space and the inverse of its basis; both the rotation and the axes may be any.  The whole
map is affine (`embodimentPointInSpace_eq`), so over the box of the body each coordinate lies
between two corners of it (`exists_corner`), and the envelope of the eight corners is exact
(`body_envelope_exact`).
-/

import HomeCortex.Library.Extremes
import HomeCortex.Spatial.Embodiment
import HomeCortex.Spatial.ExactTransforms

namespace HomeCortex
namespace Spatial
namespace Exact

/-- `PhysicalValue`: an estimate and its 95% error bound. -/
structure PhysicalValue (K : Type) [Zero K] [LE K] where
  value : K
  p95 : K
  nonnegative : 0 ≤ p95

/-- `RealtimeTransform`. -/
structure RealtimeTransform (K : Type) [Zero K] [LE K] where
  x : PhysicalValue K
  y : PhysicalValue K
  z : PhysicalValue K
  yaw : PhysicalValue K
  pitch : PhysicalValue K
  roll : PhysicalValue K

/-- `BodyGeometry`: a box in the body frame. -/
structure BodyGeometry (K : Type) [Zero K] [LT K] where
  length_m : K
  width_m : K
  height_m : K
  center : Position K
  length_pos : 0 < length_m
  width_pos : 0 < width_m
  height_pos : 0 < height_m

/-- `Position(*(f(axis) for axis in range(3)))`. -/
def Position.ofAxes {K : Type} (f : Axis → K) : Position K := ⟨f .x, f .y, f .z⟩

@[simp] theorem Position.along_ofAxes {K : Type} (f : Axis → K) (axis : Axis) :
    (Position.ofAxes f).along axis = f axis := by
  cases axis <;> rfl

/-- The translation of a transform along an axis. -/
def RealtimeTransform.along {K : Type} [Zero K] [LE K] (transform : RealtimeTransform K) :
    Axis → PhysicalValue K
  | .x => transform.x
  | .y => transform.y
  | .z => transform.z

variable {K : Type} [Field K] [LinearOrder K]

/-- `pose(yaw=…, pitch=…, roll=…)` of a transform. -/
def RealtimeTransform.orientation (transform : RealtimeTransform K) : Orientation K :=
  ⟨transform.yaw.value, transform.pitch.value, transform.roll.value⟩

/-- `IDENTITY_BASIS`. -/
def identityBasis : JsonDoc K := basisAsMapping ⟨(1, 0, 0), (0, 1, 0), (0, 0, 1)⟩

/-- `_metric_axes`: unit directions of an orthogonal, right-handed basis. -/
def metricAxes (math : MathFunctions K) (spaceBasis : Basis K) : Except PyError (Basis K) := do
  let basis ← canonicalBasis (basisAsMapping spaceBasis)
  let unit (v : Vector K) : Vector K :=
    let magnitude := math.sqrt (dot v v)
    (v.1 / magnitude, v.2.1 / magnitude, v.2.2 / magnitude)
  let x := unit basis.x
  let y := unit basis.y
  let z := unit basis.z
  let tolerance : K := 1 / (10 ^ 9 : Nat)
  raiseIf ([(x, y), (x, z), (y, z)].any fun pair => decide (tolerance < |dot pair.1 pair.2|))
    (.spatialContract "rigid embodiment transform requires an orthogonal space basis")
  let cross : Vector K := (x.2.1 * y.2.2 - x.2.2 * y.2.1, x.2.2 * y.1 - x.1 * y.2.2,
    x.1 * y.2.1 - x.2.1 * y.1)
  raiseIf (decide (tolerance < |cross.1 - z.1|) || decide (tolerance < |cross.2.1 - z.2.1|) ||
      decide (tolerance < |cross.2.2 - z.2.2|))
    (.spatialContract "rigid embodiment transform requires a right-handed space basis")
  return ⟨x, y, z⟩

section Bodies

variable (rotate : Orientation K → Matrix33 K) (axesOf : Basis K → Except PyError (Basis K))

/-- `transform_point`, the rotation of the frame being given. -/
def transformPoint (point : Point K) (frame : Pose K) : Except PyError (Position K) := do
  let position ← asPosition point
  return .ofTuple (add (matvec (rotate frame.orientation) position.asTuple)
    frame.position.asTuple)

/-- `embodiment_point_in_space`, the metric axes of a basis being given. -/
def embodimentPointInSpace (point : Position K) (transform : RealtimeTransform K)
    (spaceBasis : Option (JsonDoc K)) : Except PyError (Position K) := do
  let basis ← canonicalBasis (spaceBasis.getD identityBasis)
  let axes ← axesOf basis
  let rotated ← transformPoint rotate (.position point) ⟨⟨0, 0, 0⟩, transform.orientation⟩
  let displacement := matvec (basisMatrix axes) rotated.asTuple
  let point ← physicalToLocal
    (.value (.arr [.num displacement.1, .num displacement.2.1, .num displacement.2.2])) basis
  return ⟨transform.x.value + point.x, transform.y.value + point.y,
    transform.z.value + point.z⟩

/-- `frame.axis`: an axis of the frame by its label. -/
def axisVector (label : String) : Vector K :=
  let v := (AXES.lookup label).getD (0, 0, 0)
  (v.1, v.2.1, v.2.2)

/-- The point of the body with given forward, left and up parts from the centre. -/
def bodyPoint (geometry : BodyGeometry K) (frame : LocalFrame) (parts : Vector K) : Position K :=
  let forward : Vector K := axisVector frame.forward
  let left : Vector K := axisVector frame.left
  let up : Vector K := axisVector frame.up
  ⟨geometry.center.x + dot parts (forward.1, left.1, up.1),
    geometry.center.y + dot parts (forward.2.1, left.2.1, up.2.1),
    geometry.center.z + dot parts (forward.2.2, left.2.2, up.2.2)⟩

/-- The signs of the corners, forward slowest. -/
def cornerSigns : List (Vector K) :=
  [-1, 1].flatMap fun forward => [-1, 1].flatMap fun left => [-1, 1].map fun up =>
    (forward, left, up)

/-- A corner of the body. -/
def corner (geometry : BodyGeometry K) (frame : LocalFrame) (signs : Vector K) : Position K :=
  bodyPoint geometry frame (signs.1 * (geometry.length_m / 2),
    signs.2.1 * (geometry.width_m / 2), signs.2.2 * (geometry.height_m / 2))

/-- `box_corners_in_space`. -/
def boxCornersInSpace (geometry : BodyGeometry K) (frame : LocalFrame)
    (transform : RealtimeTransform K) (spaceBasis : Option (JsonDoc K)) :
    Except PyError (List (Position K)) :=
  cornerSigns.mapM fun signs =>
    embodimentPointInSpace rotate axesOf (corner geometry frame signs) transform spaceBasis

/-- `AxisAlignedEnvelope`. -/
structure AxisAlignedEnvelope (K : Type) [LE K] where
  minimum : Position K
  maximum : Position K
  ordered : ∀ axis, minimum.along axis ≤ maximum.along axis

/-- `AxisAlignedEnvelope(minimum, maximum)`. -/
def mkEnvelope (minimum maximum : Position K) : Except PyError (AxisAlignedEnvelope K) :=
  if h : minimum.x ≤ maximum.x ∧ minimum.y ≤ maximum.y ∧ minimum.z ≤ maximum.z then
    .ok ⟨minimum, maximum, fun axis => by
      cases axis with
      | x => exact h.1
      | y => exact h.2.1
      | z => exact h.2.2⟩
  else .error (.spatialContract "envelope minimum must not exceed maximum")

/-- `envelope_of_points`. -/
def envelopeOfPoints : List (Position K) → Except PyError (AxisAlignedEnvelope K)
  | [] => .error (.spatialContract "an envelope requires at least one point")
  | first :: rest =>
      let least (axis : Axis) : K := (rest.map (·.along axis)).foldl min (first.along axis)
      let greatest (axis : Axis) : K := (rest.map (·.along axis)).foldl max (first.along axis)
      mkEnvelope (.ofAxes least) (.ofAxes greatest)

/-- `nominal_box_envelope`. -/
def nominalBoxEnvelope (geometry : BodyGeometry K) (frame : LocalFrame)
    (transform : RealtimeTransform K) (spaceBasis : Option (JsonDoc K)) :
    Except PyError (AxisAlignedEnvelope K) := do
  envelopeOfPoints (← boxCornersInSpace rotate axesOf geometry frame transform spaceBasis)

/-- `translation_p95_envelope`. -/
def translationP95Envelope (nominal : AxisAlignedEnvelope K) (transform : RealtimeTransform K) :
    Except PyError (AxisAlignedEnvelope K) :=
  mkEnvelope (.ofAxes fun axis => nominal.minimum.along axis - (transform.along axis).p95)
    (.ofAxes fun axis => nominal.maximum.along axis + (transform.along axis).p95)

end Bodies

/-! ### Envelopes -/

/-- A point lies in an envelope. -/
def AxisAlignedEnvelope.Contains (envelope : AxisAlignedEnvelope K) (p : Position K) : Prop :=
  ∀ axis, envelope.minimum.along axis ≤ p.along axis ∧ p.along axis ≤ envelope.maximum.along axis

omit [Field K] in
/-- `AxisAlignedEnvelope` of two points in order. -/
theorem mkEnvelope_ok {minimum maximum : Position K}
    (h : ∀ axis, minimum.along axis ≤ maximum.along axis) :
    mkEnvelope minimum maximum = .ok ⟨minimum, maximum, h⟩ := by
  rw [mkEnvelope, dif_pos ⟨h .x, h .y, h .z⟩]

omit [Field K] in
/-- **The envelope of some points** contains them, and each face has one of them. -/
theorem envelopeOfPoints_spec {points : List (Position K)} (hne : points ≠ []) :
    ∃ envelope, envelopeOfPoints points = .ok envelope ∧
      (∀ p ∈ points, envelope.Contains p) ∧
      ∀ axis, (∃ p ∈ points, p.along axis = envelope.minimum.along axis) ∧
        ∃ p ∈ points, p.along axis = envelope.maximum.along axis := by
  cases points with
  | nil => exact absurd rfl hne
  | cons first rest =>
      have hleast : ∀ axis, ∀ p ∈ first :: rest,
          (rest.map (·.along axis)).foldl min (first.along axis) ≤ p.along axis :=
        fun axis p hp => Extremes.picks_min.foldl_extreme (rest.map (·.along axis)) _ _
          (List.mem_map_of_mem (f := (·.along axis)) hp)
      have hgreatest : ∀ axis, ∀ p ∈ first :: rest,
          p.along axis ≤ (rest.map (·.along axis)).foldl max (first.along axis) :=
        fun axis p hp => Extremes.picks_max.foldl_extreme (rest.map (·.along axis)) _ _
          (List.mem_map_of_mem (f := (·.along axis)) hp)
      have hmem : ∀ axis value, value ∈ first.along axis :: rest.map (·.along axis) →
          ∃ p ∈ first :: rest, p.along axis = value := by
        intro axis value hvalue
        exact List.mem_map.mp (show value ∈ (first :: rest).map (·.along axis) from hvalue)
      refine ⟨_, mkEnvelope_ok fun axis => ?_, fun p hp axis => ?_, fun axis => ⟨?_, ?_⟩⟩
      · rw [Position.along_ofAxes, Position.along_ofAxes]
        exact (hleast axis first List.mem_cons_self).trans
          (hgreatest axis first List.mem_cons_self)
      · rw [Position.along_ofAxes, Position.along_ofAxes]
        exact ⟨hleast axis p hp, hgreatest axis p hp⟩
      · rw [Position.along_ofAxes]
        exact hmem axis _ (Extremes.picks_min.foldl_mem _ _)
      · rw [Position.along_ofAxes]
        exact hmem axis _ (Extremes.picks_max.foldl_mem _ _)

/-! ### The image of a body -/

/-- A row of a matrix. -/
def rowOf (matrix : Matrix33 K) : Axis → Vector K
  | .x => matrix.1
  | .y => matrix.2.1
  | .z => matrix.2.2

omit [LinearOrder K] in
theorem matvec_matmul (a b : Matrix33 K) (v : Vector K) :
    matvec (matmul a b) v = matvec a (matvec b v) := by
  obtain ⟨⟨a₁, a₂, a₃⟩, ⟨a₄, a₅, a₆⟩, a₇, a₈, a₉⟩ := a
  obtain ⟨⟨b₁, b₂, b₃⟩, ⟨b₄, b₅, b₆⟩, b₇, b₈, b₉⟩ := b
  obtain ⟨x, y, z⟩ := v
  simp only [matvec, matmul, transpose, dot]
  refine Prod.ext ?_ (Prod.ext ?_ ?_)
  · dsimp only
    ring
  · dsimp only
    ring
  · dsimp only
    ring

section Images

variable {axesOf : Basis K → Except PyError (Basis K)} {spaceBasis : Option (JsonDoc K)}
  {basis axes : Basis K} (hbasis : canonicalBasis (spaceBasis.getD identityBasis) = .ok basis)
  (haxes : axesOf basis = .ok axes)

include hbasis haxes

/-- **The map of a body is affine**: one matrix for all points and translations. -/
theorem embodimentPointInSpace_eq (rotate : Orientation K → Matrix33 K)
    (orientation : Orientation K) :
    ∃ matrix : Matrix33 K, ∀ transform : RealtimeTransform K,
      transform.orientation = orientation → ∀ point : Position K, ∃ image,
        embodimentPointInSpace rotate axesOf point transform spaceBasis = .ok image ∧
          ∀ axis, image.along axis =
            (transform.along axis).value + dot (rowOf matrix axis) point.asTuple := by
  have hinverse := (canonical_of_canonicalBasis hbasis).invert3_eq
  generalize cofactors (det3 (basisMatrix basis)) (basisMatrix basis) = inverse at hinverse
  refine ⟨matmul inverse (matmul (basisMatrix axes) (rotate orientation)), ?_⟩
  rintro transform rfl point
  have himage : matvec inverse (matvec (basisMatrix axes)
      (matvec (rotate transform.orientation) point.asTuple)) =
        matvec (matmul inverse (matmul (basisMatrix axes) (rotate transform.orientation)))
          point.asTuple := by
    rw [matvec_matmul, matvec_matmul]
  have hrotated : transformPoint rotate (.position point) ⟨⟨0, 0, 0⟩, transform.orientation⟩ =
      .ok (.ofTuple (matvec (rotate transform.orientation) point.asTuple)) := by
    show Except.ok (Position.ofTuple (add _ ((0 : K), (0 : K), (0 : K)))) = _
    simp [add, matvec]
  refine ⟨.ofAxes fun axis => (transform.along axis).value + dot (rowOf (matmul inverse
    (matmul (basisMatrix axes) (rotate transform.orientation))) axis) point.asTuple, ?_,
    fun axis => Position.along_ofAxes _ axis⟩
  have hlocal : physicalToLocal (.value (.arr
      (let v := matvec (basisMatrix axes) (matvec (rotate transform.orientation) point.asTuple)
      [.num v.1, .num v.2.1, .num v.2.2]))) basis =
        .ok (.ofTuple (matvec inverse (matvec (basisMatrix axes)
          (matvec (rotate transform.orientation) point.asTuple)))) := by
    rw [physicalToLocal, hinverse]
    rfl
  refine Except.bind_eq_ok.mpr ⟨basis, hbasis, Except.bind_eq_ok.mpr ⟨axes, haxes,
    Except.bind_eq_ok.mpr ⟨_, hrotated, Except.bind_eq_ok.mpr ⟨_, hlocal, ?_⟩⟩⟩⟩
  rw [himage]
  rfl

end Images

/-! ### The box of a body -/

/-- Parts of at most half a length, a width and a height. -/
def WithinBox (geometry : BodyGeometry K) (parts : Vector K) : Prop :=
  |parts.1| ≤ geometry.length_m / 2 ∧ |parts.2.1| ≤ geometry.width_m / 2 ∧
    |parts.2.2| ≤ geometry.height_m / 2

/-- A point of the oriented box. -/
def InBox (geometry : BodyGeometry K) (frame : LocalFrame) (point : Position K) : Prop :=
  ∃ parts, WithinBox geometry parts ∧ point = bodyPoint geometry frame parts

omit [LinearOrder K] in
theorem mem_cornerSigns {signs : Vector K} : signs ∈ cornerSigns ↔
    (signs.1 = -1 ∨ signs.1 = 1) ∧ (signs.2.1 = -1 ∨ signs.2.1 = 1) ∧
      (signs.2.2 = -1 ∨ signs.2.2 = 1) := by
  obtain ⟨a, b, c⟩ := signs
  simp only [cornerSigns, List.mem_flatMap, List.mem_map, List.mem_cons, List.not_mem_nil,
    or_false, Prod.mk.injEq]
  constructor
  · rintro ⟨_, ha, _, hb, _, hc, rfl, rfl, rfl⟩
    exact ⟨ha, hb, hc⟩
  · rintro ⟨ha, hb, hc⟩
    exact ⟨a, ha, b, hb, c, hc, rfl, rfl, rfl⟩

section Corners

variable [IsStrictOrderedRing K]

/-- One part of a body: on one of its two ends it weighs at least as much. -/
theorem exists_sign {part half : K} (h : |part| ≤ half) (weight : K) :
    ∃ sign : K, (sign = -1 ∨ sign = 1) ∧ part * weight ≤ sign * half * weight := by
  obtain ⟨hlower, hupper⟩ := abs_le.mp h
  rcases le_total 0 weight with hweight | hweight
  · refine ⟨1, .inr rfl, ?_⟩
    rw [one_mul]
    exact mul_le_mul_of_nonneg_right hupper hweight
  · refine ⟨-1, .inl rfl, ?_⟩
    rw [neg_one_mul]
    exact mul_le_mul_of_nonpos_right hlower hweight

/-- **A corner weighs at least as much** as a point of the box. -/
theorem exists_corner {geometry : BodyGeometry K} {parts : Vector K}
    (h : WithinBox geometry parts) (weights : Vector K) :
    ∃ signs ∈ cornerSigns, dot parts weights ≤ dot (signs.1 * (geometry.length_m / 2),
      signs.2.1 * (geometry.width_m / 2), signs.2.2 * (geometry.height_m / 2)) weights := by
  obtain ⟨forward, hforward, hle₁⟩ := exists_sign h.1 weights.1
  obtain ⟨left, hleft, hle₂⟩ := exists_sign h.2.1 weights.2.1
  obtain ⟨up, hup, hle₃⟩ := exists_sign h.2.2 weights.2.2
  exact ⟨(forward, left, up), mem_cornerSigns.mpr ⟨hforward, hleft, hup⟩,
    add_le_add (add_le_add hle₁ hle₂) hle₃⟩

/-- A corner is a point of the box. -/
theorem corner_inBox (geometry : BodyGeometry K) (frame : LocalFrame) {signs : Vector K}
    (h : signs ∈ cornerSigns) : InBox geometry frame (corner geometry frame signs) := by
  have hsign : ∀ {sign half : K}, (sign = -1 ∨ sign = 1) → 0 < half →
      |sign * (half / 2)| ≤ half / 2 := by
    rintro sign half (rfl | rfl) hhalf
    · rw [neg_one_mul, abs_neg, abs_of_pos (half_pos hhalf)]
    · rw [one_mul, abs_of_pos (half_pos hhalf)]
  obtain ⟨hforward, hleft, hup⟩ := mem_cornerSigns.mp h
  exact ⟨_, ⟨hsign hforward geometry.length_pos, hsign hleft geometry.width_pos,
    hsign hup geometry.height_pos⟩, rfl⟩

omit [LinearOrder K] [IsStrictOrderedRing K] in
theorem dot_neg (v w : Vector K) : dot v (-w.1, -w.2.1, -w.2.2) = -dot v w := by
  simp only [dot]
  ring

/-- What a part of the body weighs in a coordinate of its image. -/
def weightsOf (frame : LocalFrame) (row : Vector K) : Vector K :=
  (dot row (axisVector frame.forward), dot row (axisVector frame.left),
    dot row (axisVector frame.up))

omit [IsStrictOrderedRing K] in
theorem dot_bodyPoint (geometry : BodyGeometry K) (frame : LocalFrame) (parts row : Vector K) :
    dot row (bodyPoint geometry frame parts).asTuple =
      dot row geometry.center.asTuple + dot parts (weightsOf frame row) := by
  simp only [bodyPoint, Position.asTuple, weightsOf, dot]
  ring

/-- Each coordinate of a linear image of the box lies between those of two corners. -/
theorem between_corners {geometry : BodyGeometry K} (frame : LocalFrame) {point : Position K}
    (h : InBox geometry frame point) (row : Vector K) :
    (∃ signs ∈ cornerSigns,
      dot row (corner geometry frame signs).asTuple ≤ dot row point.asTuple) ∧
    ∃ signs ∈ cornerSigns,
      dot row point.asTuple ≤ dot row (corner geometry frame signs).asTuple := by
  obtain ⟨parts, hparts, rfl⟩ := h
  obtain ⟨low, hlow, hle⟩ := exists_corner hparts (-(weightsOf frame row).1,
    -(weightsOf frame row).2.1, -(weightsOf frame row).2.2)
  obtain ⟨high, hhigh, hge⟩ := exists_corner hparts (weightsOf frame row)
  rw [dot_neg, dot_neg, neg_le_neg_iff] at hle
  rw [dot_bodyPoint]
  refine ⟨⟨low, hlow, ?_⟩, high, hhigh, ?_⟩
  · rw [corner, dot_bodyPoint]
    exact add_le_add le_rfl hle
  · rw [corner, dot_bodyPoint]
    exact add_le_add le_rfl hge

end Corners

/-! ### The envelope of a body -/

/-- A transform moved by at most the p95 bounds of its translation. -/
def MovedWithin (transform moved : RealtimeTransform K) : Prop :=
  moved.orientation = transform.orientation ∧ ∀ axis,
    |(moved.along axis).value - (transform.along axis).value| ≤ (transform.along axis).p95

/-- **The body envelope is exact.**  For any rotation of poses and any metric axes: the
envelope of the corners contains the image of every point of the body, each of its faces is
touched by such an image, and the inflated envelope contains the envelope and the image of the
body under every translation within the bounds. -/
theorem body_envelope_exact [IsStrictOrderedRing K] (rotate : Orientation K → Matrix33 K)
    (axesOf : Basis K → Except PyError (Basis K)) {spaceBasis : Option (JsonDoc K)}
    {basis axes : Basis K} (hbasis : canonicalBasis (spaceBasis.getD identityBasis) = .ok basis)
    (haxes : axesOf basis = .ok axes) (geometry : BodyGeometry K) (frame : LocalFrame)
    (transform : RealtimeTransform K) :
    ∃ envelope inflated,
      nominalBoxEnvelope rotate axesOf geometry frame transform spaceBasis = .ok envelope ∧
      translationP95Envelope envelope transform = .ok inflated ∧
      (∀ point, InBox geometry frame point → ∃ image,
        embodimentPointInSpace rotate axesOf point transform spaceBasis = .ok image ∧
          envelope.Contains image) ∧
      (∀ axis,
        (∃ point image, InBox geometry frame point ∧
          embodimentPointInSpace rotate axesOf point transform spaceBasis = .ok image ∧
            image.along axis = envelope.minimum.along axis) ∧
        ∃ point image, InBox geometry frame point ∧
          embodimentPointInSpace rotate axesOf point transform spaceBasis = .ok image ∧
            image.along axis = envelope.maximum.along axis) ∧
      (∀ point, envelope.Contains point → inflated.Contains point) ∧
      ∀ moved, MovedWithin transform moved → ∀ point, InBox geometry frame point → ∃ image,
        embodimentPointInSpace rotate axesOf point moved spaceBasis = .ok image ∧
          inflated.Contains image := by
  obtain ⟨matrix, hmatrix⟩ :=
    embodimentPointInSpace_eq hbasis haxes rotate transform.orientation
  choose image himage halong using hmatrix transform rfl
  have hcorners : boxCornersInSpace rotate axesOf geometry frame transform spaceBasis =
      .ok (cornerSigns.map fun signs => image (corner geometry frame signs)) :=
    Except.mapM_eq_ok.mpr (List.forall₂_map_right_iff.mpr
      (List.forall₂_same.mpr fun signs _ => himage (corner geometry frame signs)))
  have hne : cornerSigns.map (fun signs => image (corner geometry frame signs)) ≠ [] :=
    mt List.map_eq_nil_iff.mp (List.cons_ne_nil _ _)
  obtain ⟨envelope, henvelope, hcontains, hfaces⟩ := envelopeOfPoints_spec hne
  have hinflated : ∀ axis, envelope.minimum.along axis - (transform.along axis).p95 ≤
      envelope.maximum.along axis + (transform.along axis).p95 := fun axis => by
    have hordered := envelope.ordered axis
    have hp95 := (transform.along axis).nonnegative
    linarith
  have hbox : ∀ point, InBox geometry frame point → envelope.Contains (image point) := by
    intro point hpoint axis
    obtain ⟨⟨low, hlow, hle⟩, high, hhigh, hge⟩ :=
      between_corners frame hpoint (rowOf matrix axis)
    have hmin := (hcontains _ (List.mem_map_of_mem hlow) axis).1
    have hmax := (hcontains _ (List.mem_map_of_mem hhigh) axis).2
    rw [halong] at hmin hmax ⊢
    exact ⟨hmin.trans (add_le_add le_rfl hle), (add_le_add le_rfl hge).trans hmax⟩
  refine ⟨envelope, _, Except.bind_eq_ok.mpr ⟨_, hcorners, henvelope⟩,
    mkEnvelope_ok fun axis => ?_,
    fun point hpoint => ⟨image point, himage point, hbox point hpoint⟩,
    fun axis => ⟨?_, ?_⟩, fun point hpoint axis => ?_, fun moved hmoved point hpoint => ?_⟩
  · rw [Position.along_ofAxes, Position.along_ofAxes]
    exact hinflated axis
  · obtain ⟨_, hmem, hface⟩ := (hfaces axis).1
    obtain ⟨signs, hsigns, rfl⟩ := List.mem_map.mp hmem
    exact ⟨_, _, corner_inBox geometry frame hsigns, himage _, hface⟩
  · obtain ⟨_, hmem, hface⟩ := (hfaces axis).2
    obtain ⟨signs, hsigns, rfl⟩ := List.mem_map.mp hmem
    exact ⟨_, _, corner_inBox geometry frame hsigns, himage _, hface⟩
  · have hp95 := (transform.along axis).nonnegative
    obtain ⟨hmin, hmax⟩ := hpoint axis
    rw [Position.along_ofAxes, Position.along_ofAxes]
    exact ⟨by linarith, by linarith⟩
  · obtain ⟨reached, hreached, hat⟩ := hmatrix moved hmoved.1 point
    refine ⟨reached, hreached, fun axis => ?_⟩
    obtain ⟨hmin, hmax⟩ := hbox point hpoint axis
    obtain ⟨hlower, hupper⟩ := abs_le.mp (hmoved.2 axis)
    rw [halong] at hmin hmax
    rw [Position.along_ofAxes, Position.along_ofAxes, hat]
    exact ⟨by linarith, by linarith⟩

/-- A transform without a turn and with a bound on its x. -/
def shifted : RealtimeTransform ℚ :=
  ⟨⟨1, 1 / 10, by norm_num⟩, ⟨2, 0, le_rfl⟩, ⟨3, 0, le_rfl⟩, ⟨0, 0, le_rfl⟩, ⟨0, 0, le_rfl⟩,
    ⟨0, 0, le_rfl⟩⟩

/-- A body with its centre beside the origin. -/
def duckBox : BodyGeometry ℚ := ⟨4, 2, 1, ⟨0, 1, 0⟩, by norm_num, by norm_num, by norm_num⟩

/-- The axes of the body are those of its frame. -/
def plainFrame : LocalFrame := ⟨"+x", "+y", "+z", by decide⟩

/-- A basis of doubled axes. -/
def doubledBasis : Basis ℚ := ⟨(2, 0, 0), (0, 2, 0), (0, 0, 2)⟩

theorem body_envelope_exact_duck : ∃ envelope inflated,
    nominalBoxEnvelope (rotation mathAtZero) (metricAxes mathAtZero) duckBox plainFrame shifted
      (some (basisAsMapping doubledBasis)) = .ok envelope ∧
    translationP95Envelope envelope shifted = .ok inflated ∧
    ∀ point, InBox duckBox plainFrame point → ∃ image,
      embodimentPointInSpace (rotation mathAtZero) (metricAxes mathAtZero) point shifted
        (some (basisAsMapping doubledBasis)) = .ok image ∧ envelope.Contains image := by
  have hbasis : canonicalBasis ((some (basisAsMapping doubledBasis)).getD identityBasis) =
      .ok doubledBasis := by decide +kernel
  have haxes : metricAxes mathAtZero doubledBasis = .ok ⟨(1, 0, 0), (0, 1, 0), (0, 0, 1)⟩ := by
    decide +kernel
  obtain ⟨envelope, inflated, henvelope, hinflated, hbox, -⟩ :=
    body_envelope_exact (rotation mathAtZero) (metricAxes mathAtZero) hbasis haxes duckBox
      plainFrame shifted
  exact ⟨envelope, inflated, henvelope, hinflated, hbox⟩

end Exact
end Spatial
end HomeCortex
