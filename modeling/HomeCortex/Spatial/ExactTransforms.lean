/-
# Transforms in exact arithmetic

`spatial/transforms.py` over an ordered field in place of binary64: positions and poses, their
composition, and the basis of a space, whose inverse is a table of nine cofactors.  The
functions of `math` are given (`MathFunctions`).  For every basis that `canonical_basis`
accepts the two maps between local and physical coordinates are inverse to each other
(`basis_conversion_invertible`).
-/

import HomeCortex.Common.Json
import HomeCortex.Library.Checked
import HomeCortex.Library.JsonText

namespace HomeCortex
namespace Spatial
namespace Exact

/-- The functions of `math` that the transforms call. -/
structure MathFunctions (K : Type) where
  sin : K → K
  cos : K → K
  asin : K → K
  atan2 : K → K → K
  sqrt : K → K
  pi : K

/-- A tuple of three numbers. -/
abbrev Vector (K : Type) := K × K × K

/-- The three rows of a matrix. -/
abbrev Matrix33 (K : Type) := Vector K × Vector K × Vector K

/-- `Position`. -/
structure Position (K : Type) where
  x : K
  y : K
  z : K
deriving DecidableEq

/-- `Orientation`. -/
structure Orientation (K : Type) where
  yaw : K
  pitch : K
  roll : K
deriving DecidableEq

/-- `Pose`. -/
structure Pose (K : Type) where
  position : Position K
  orientation : Orientation K
deriving DecidableEq

/-- A basis: its three vectors. -/
structure Basis (K : Type) where
  x : Vector K
  y : Vector K
  z : Vector K
deriving DecidableEq

/-- `Position | Mapping | Sequence`. -/
inductive Point (K : Type) where
  | position (p : Position K)
  | value (v : JsonDoc K)

/-- The index of a coordinate. -/
inductive Axis where
  | x
  | y
  | z
deriving DecidableEq

/-- `p.as_tuple()[axis]`. -/
def Position.along {K : Type} (p : Position K) : Axis → K
  | .x => p.x
  | .y => p.y
  | .z => p.z

variable {K : Type}

/-- `Position.as_tuple`. -/
def Position.asTuple (p : Position K) : Vector K := (p.x, p.y, p.z)

/-- `Position(*v)`. -/
def Position.ofTuple (v : Vector K) : Position K := ⟨v.1, v.2.1, v.2.2⟩

/-- `sorted(set(value) - allowed)`. -/
def extraKeys {α : Type} (fields : List (String × α)) (allowed : List String) : List String :=
  ((fields.map Prod.fst).filter fun key => !allowed.contains key).insertionSort (· ≤ ·)

/-- `_finite`: in exact arithmetic every number is. -/
def finite (value : JsonDoc K) (name : String) : Except PyError K :=
  match value with
  | .num x => .ok x
  | _ => .error (.spatialTransform (name ++ " must be a finite number"))

/-- `_as_position`. -/
def asPosition [Zero K] : Point K → Except PyError (Position K)
  | .position p => .ok p
  | .value (.obj fields) => do
      let extra := extraKeys fields ["x", "y", "z"]
      raiseIf (!extra.isEmpty)
        (.spatialTransform ("Unknown position fields: " ++ ", ".intercalate extra))
      return ⟨← finite ((fields.lookup "x").getD (.num 0)) "x",
        ← finite ((fields.lookup "y").getD (.num 0)) "y",
        ← finite ((fields.lookup "z").getD (.num 0)) "z"⟩
  | .value (.arr [a, b]) => do return ⟨← finite a "x", ← finite b "y", 0⟩
  | .value (.arr [a, b, c]) => do return ⟨← finite a "x", ← finite b "y", ← finite c "z"⟩
  | .value (.arr _) => .error (.spatialTransform "point must have 2 or 3 coordinates")
  | .value _ => .error (.spatialTransform "point must be a position, mapping, or sequence")

section Matrices

variable [Field K]

/-- `sum(row[j] * vector[j] for j in range(3))`. -/
def dot (row vector : Vector K) : K :=
  row.1 * vector.1 + row.2.1 * vector.2.1 + row.2.2 * vector.2.2

/-- `_matvec`. -/
def matvec (matrix : Matrix33 K) (vector : Vector K) : Vector K :=
  (dot matrix.1 vector, dot matrix.2.1 vector, dot matrix.2.2 vector)

/-- `_transpose`. -/
def transpose (matrix : Matrix33 K) : Matrix33 K :=
  ((matrix.1.1, matrix.2.1.1, matrix.2.2.1),
    (matrix.1.2.1, matrix.2.1.2.1, matrix.2.2.2.1),
    (matrix.1.2.2, matrix.2.1.2.2, matrix.2.2.2.2))

/-- `_matmul`: the rows of the left times the columns of the right. -/
def matmul (left right : Matrix33 K) : Matrix33 K :=
  let columns := transpose right
  (matvec columns left.1, matvec columns left.2.1, matvec columns left.2.2)

/-- `_add`. -/
def add (left right : Vector K) : Vector K :=
  (left.1 + right.1, left.2.1 + right.2.1, left.2.2 + right.2.2)

/-- `_scale`. -/
def scale (vector : Vector K) (factor : K) : Vector K :=
  (vector.1 * factor, vector.2.1 * factor, vector.2.2 * factor)

/-- `_basis_matrix`: the vectors of the basis are the columns. -/
def basisMatrix (basis : Basis K) : Matrix33 K :=
  ((basis.x.1, basis.y.1, basis.z.1), (basis.x.2.1, basis.y.2.1, basis.z.2.1),
    (basis.x.2.2, basis.y.2.2, basis.z.2.2))

/-- `_det3`. -/
def det3 : Matrix33 K → K
  | ((a, b, c), (d, e, f), (g, h, i)) =>
      a * (e * i - f * h) - b * (d * i - f * g) + c * (d * h - e * g)

/-- The table of cofactors of `_invert3`, over a determinant. -/
def cofactors (det : K) : Matrix33 K → Matrix33 K
  | ((a, b, c), (d, e, f), (g, h, i)) =>
      (((e * i - f * h) / det, (c * h - b * i) / det, (b * f - c * e) / det),
        ((f * g - d * i) / det, (a * i - c * g) / det, (c * d - a * f) / det),
        ((d * h - e * g) / det, (b * g - a * h) / det, (a * e - b * d) / det))

end Matrices

/-! ### Poses -/

section Poses

variable [Field K] [LinearOrder K] (math : MathFunctions K)

/-- `_GIMBAL`. -/
def GIMBAL : K := 1 / 10 ^ 9

/-- `_rotation`: yaw about z, then pitch about y, then roll about x. -/
def rotation (value : Orientation K) : Matrix33 K :=
  let cy := math.cos value.yaw
  let sy := math.sin value.yaw
  let cp := math.cos value.pitch
  let sp := math.sin value.pitch
  let cr := math.cos value.roll
  let sr := math.sin value.roll
  ((cy * cp, cy * sp * sr - sy * cr, cy * sp * cr + sy * sr),
    (sy * cp, sy * sp * sr + cy * cr, sy * sp * cr - cy * sr),
    (-sp, cp * sr, cp * cr))

/-- `_pose_from_rt`. -/
def poseFromRt (rotation : Matrix33 K) (translation : Vector K) : Pose K :=
  let pitch := math.asin (max (-1) (min 1 (-rotation.2.2.1)))
  if |math.cos pitch| < GIMBAL then
    ⟨.ofTuple translation, math.atan2 (-rotation.1.2.1) rotation.2.1.2.1, pitch, 0⟩
  else ⟨.ofTuple translation, math.atan2 rotation.2.1.1 rotation.1.1, pitch,
    math.atan2 rotation.2.2.2.1 rotation.2.2.2.2⟩

/-- `compose_pose`. -/
def composePose (parent child : Pose K) : Pose K :=
  poseFromRt math (matmul (rotation math parent.orientation) (rotation math child.orientation))
    (add (matvec (rotation math parent.orientation) child.position.asTuple)
      parent.position.asTuple)

/-- `invert_pose`. -/
def invertPose (value : Pose K) : Pose K :=
  let inverse := transpose (rotation math value.orientation)
  poseFromRt math inverse (scale (matvec inverse value.position.asTuple) (-1))

end Poses

/-! ### Bases -/

section Bases

variable [Field K] [LinearOrder K]

/-- `_BASIS_SINGULAR`. -/
def BASIS_SINGULAR : K := 1 / 10 ^ 12

/-- `_basis_vector`. -/
def basisVector (value : JsonDoc K) (name : String) : Except PyError (Vector K) :=
  match value with
  | .arr [a, b, c] => do
      let vector := (← finite a ("basis." ++ name), ← finite b ("basis." ++ name),
        ← finite c ("basis." ++ name))
      raiseIf (decide (vector = (0, 0, 0)))
        (.spatialTransform ("basis." ++ name ++ " cannot be a zero vector"))
      return vector
  | _ => .error (.spatialTransform
      ("basis." ++ name ++ " must be a list of three finite numbers"))

/-- `value[name]` of a basis that has it. -/
def basisField (fields : List (String × JsonDoc K)) (name : String) :
    Except PyError (Vector K) :=
  basisVector ((fields.lookup name).getD .null) name

/-- `canonical_basis`. -/
def canonicalBasis : JsonDoc K → Except PyError (Basis K)
  | .obj fields => do
      let extra := extraKeys fields ["x", "y", "z"]
      raiseIf (!extra.isEmpty)
        (.spatialTransform ("Unknown basis fields: " ++ ", ".intercalate extra))
      raiseIf (!(["x", "y", "z"].all fun name => (fields.lookup name).isSome))
        (.spatialTransform "basis requires x, y, and z")
      let vectors : Basis K :=
        ⟨← basisField fields "x", ← basisField fields "y", ← basisField fields "z"⟩
      raiseIf (decide (|det3 (basisMatrix vectors)| < BASIS_SINGULAR))
        (.spatialTransform "basis vectors must be linearly independent")
      return vectors
  | _ => .error (.spatialTransform "basis must be an object")

/-- The mapping that `canonical_basis` returns. -/
def basisAsMapping (basis : Basis K) : JsonDoc K :=
  let vector (v : Vector K) : JsonDoc K := .arr [.num v.1, .num v.2.1, .num v.2.2]
  .obj [("x", vector basis.x), ("y", vector basis.y), ("z", vector basis.z)]

/-- `_invert3`. -/
def invert3 (matrix : Matrix33 K) : Except PyError (Matrix33 K) :=
  if |det3 matrix| < BASIS_SINGULAR then .error (.spatialTransform "singular basis")
  else .ok (cofactors (det3 matrix) matrix)

/-- `local_to_physical`. -/
def localToPhysical (point : Point K) (basis : Basis K) : Except PyError (Position K) := do
  return .ofTuple (matvec (basisMatrix basis) (← asPosition point).asTuple)

/-- `physical_to_local`. -/
def physicalToLocal (point : Point K) (basis : Basis K) : Except PyError (Position K) := do
  let inverse ← invert3 (basisMatrix basis)
  return .ofTuple (matvec inverse (← asPosition point).asTuple)

end Bases

/-! ### The inverse -/

@[simp] theorem Position.ofTuple_asTuple (p : Position K) : Position.ofTuple p.asTuple = p := rfl

@[simp] theorem Position.asTuple_ofTuple (v : Vector K) : (Position.ofTuple v).asTuple = v := rfl

section Inverse

variable [Field K]

/-- The cofactors are a left inverse: each row with the columns of the matrix gives the
determinant or nothing. -/
theorem matvec_cofactors_matvec {matrix : Matrix33 K} {det : K} (hdet : det3 matrix = det)
    (h : det ≠ 0) (v : Vector K) : matvec (cofactors det matrix) (matvec matrix v) = v := by
  obtain ⟨⟨a, b, c⟩, ⟨d, e, f⟩, g, i, j⟩ := matrix
  obtain ⟨x, y, z⟩ := v
  simp only [det3] at hdet
  have hcancel : ∀ w : K, (a * (e * j - f * i) - b * (d * j - f * g) + c * (d * i - e * g)) * w /
      det = w := fun w => by rw [hdet, mul_div_cancel_left₀ w h]
  simp only [matvec, cofactors, dot]
  refine Prod.ext ?_ (Prod.ext ?_ ?_)
  · exact Eq.trans (by ring) (hcancel x)
  · exact Eq.trans (by ring) (hcancel y)
  · exact Eq.trans (by ring) (hcancel z)

/-- The cofactors are a right inverse. -/
theorem matvec_matvec_cofactors {matrix : Matrix33 K} {det : K} (hdet : det3 matrix = det)
    (h : det ≠ 0) (v : Vector K) : matvec matrix (matvec (cofactors det matrix) v) = v := by
  obtain ⟨⟨a, b, c⟩, ⟨d, e, f⟩, g, i, j⟩ := matrix
  obtain ⟨x, y, z⟩ := v
  simp only [det3] at hdet
  have hcancel : ∀ w : K, (a * (e * j - f * i) - b * (d * j - f * g) + c * (d * i - e * g)) * w /
      det = w := fun w => by rw [hdet, mul_div_cancel_left₀ w h]
  simp only [matvec, cofactors, dot]
  refine Prod.ext ?_ (Prod.ext ?_ ?_)
  · exact Eq.trans (by ring) (hcancel x)
  · exact Eq.trans (by ring) (hcancel y)
  · exact Eq.trans (by ring) (hcancel z)

variable [LinearOrder K] [IsStrictOrderedRing K]

theorem BASIS_SINGULAR_pos : (0 : K) < BASIS_SINGULAR := by
  rw [BASIS_SINGULAR]
  positivity

/-- A basis as `canonical_basis` returns it. -/
structure Basis.Canonical (basis : Basis K) : Prop where
  x : basis.x ≠ (0, 0, 0)
  y : basis.y ≠ (0, 0, 0)
  z : basis.z ≠ (0, 0, 0)
  independent : BASIS_SINGULAR ≤ |det3 (basisMatrix basis)|

theorem Basis.Canonical.det_ne_zero {basis : Basis K} (h : basis.Canonical) :
    det3 (basisMatrix basis) ≠ 0 := by
  intro hzero
  have hindependent := h.independent
  rw [hzero, abs_zero] at hindependent
  exact absurd BASIS_SINGULAR_pos (not_lt.mpr hindependent)

omit [IsStrictOrderedRing K] in
/-- `_invert3` of a canonical basis. -/
theorem Basis.Canonical.invert3_eq {basis : Basis K} (h : basis.Canonical) :
    invert3 (basisMatrix basis) =
      .ok (cofactors (det3 (basisMatrix basis)) (basisMatrix basis)) := by
  rw [invert3, if_neg (not_lt.mpr h.independent)]

omit [IsStrictOrderedRing K] in
theorem basisField_ne_zero {fields : List (String × JsonDoc K)} {name : String} {v : Vector K}
    (h : basisField fields name = .ok v) : v ≠ (0, 0, 0) := by
  unfold basisField basisVector at h
  split at h
  case h_1 a b c _ =>
    obtain ⟨x, -, h⟩ := Except.bind_eq_ok.mp h
    obtain ⟨y, -, h⟩ := Except.bind_eq_ok.mp h
    obtain ⟨z, -, h⟩ := Except.bind_eq_ok.mp h
    obtain ⟨u, hnonzero, h⟩ := Except.bind_eq_ok.mp h
    rw [← Except.pure_eq_ok.mp h]
    exact of_decide_eq_false (raiseIf_eq_ok.mp hnonzero)
  case h_2 => cases h

omit [IsStrictOrderedRing K] in
/-- What `canonical_basis` asks of a mapping. -/
theorem canonicalBasis_eq_ok {fields : List (String × JsonDoc K)} {basis : Basis K} :
    canonicalBasis (.obj fields) = .ok basis ↔
      (extraKeys fields ["x", "y", "z"]).isEmpty = true ∧
        (["x", "y", "z"].all fun name => (fields.lookup name).isSome) = true ∧
        basisField fields "x" = .ok basis.x ∧ basisField fields "y" = .ok basis.y ∧
        basisField fields "z" = .ok basis.z ∧
        BASIS_SINGULAR ≤ |det3 (basisMatrix basis)| := by
  simp only [canonicalBasis, Except.bind_eq_ok, raiseIf_eq_ok, Except.pure_eq_ok,
    Bool.not_eq_false', decide_eq_false_iff_not, not_lt]
  constructor
  · rintro ⟨_, hextra, _, hall, x, hx, y, hy, z, hz, _, hdet, rfl⟩
    exact ⟨hextra, hall, hx, hy, hz, hdet⟩
  · rintro ⟨hextra, hall, hx, hy, hz, hdet⟩
    exact ⟨(), hextra, (), hall, _, hx, _, hy, _, hz, (), hdet, rfl⟩

omit [IsStrictOrderedRing K] in
/-- **What `canonical_basis` returns.** -/
theorem canonical_of_canonicalBasis {value : JsonDoc K} {basis : Basis K}
    (h : canonicalBasis value = .ok basis) : basis.Canonical := by
  cases value with
  | obj fields =>
      obtain ⟨-, -, hx, hy, hz, hdet⟩ := canonicalBasis_eq_ok.mp h
      exact ⟨basisField_ne_zero hx, basisField_ne_zero hy, basisField_ne_zero hz, hdet⟩
  | _ => cases h

omit [IsStrictOrderedRing K] in
/-- A canonical basis is accepted as it is. -/
theorem canonicalBasis_self {basis : Basis K} (h : basis.Canonical) :
    canonicalBasis (basisAsMapping basis) = .ok basis := by
  have hvector : ∀ v : Vector K, v ≠ (0, 0, 0) → ∀ name,
      basisVector (.arr [.num v.1, .num v.2.1, .num v.2.2]) name = .ok v := by
    intro v hv name
    show (raiseIf (decide (v = (0, 0, 0))) _ >>= fun _ => pure v) = _
    rw [decide_eq_false hv]
    rfl
  exact canonicalBasis_eq_ok.mpr ⟨rfl, rfl, hvector _ h.x "x", hvector _ h.y "y",
    hvector _ h.z "z", h.independent⟩

/-- **The two maps are inverse to each other.**  For every basis that `canonical_basis`
accepts and every point that `_as_position` accepts, mapping to physical coordinates and back
gives the point, and so does mapping to local ones and back; and the basis is accepted again
as it is. -/
theorem basis_conversion_invertible {value : JsonDoc K} {basis : Basis K}
    (hbasis : canonicalBasis value = .ok basis) {point : Point K} {v : Position K}
    (hpoint : asPosition point = .ok v) :
    (∃ physical, localToPhysical point basis = .ok physical ∧
      physicalToLocal (.position physical) basis = .ok v) ∧
    (∃ back, physicalToLocal point basis = .ok back ∧
      localToPhysical (.position back) basis = .ok v) ∧
    canonicalBasis (basisAsMapping basis) = .ok basis := by
  have hcanonical := canonical_of_canonicalBasis hbasis
  have hdet := hcanonical.det_ne_zero
  refine ⟨⟨.ofTuple (matvec (basisMatrix basis) v.asTuple), ?_, ?_⟩,
    ⟨.ofTuple (matvec (cofactors (det3 (basisMatrix basis)) (basisMatrix basis)) v.asTuple),
      ?_, ?_⟩, canonicalBasis_self hcanonical⟩
  · rw [localToPhysical, hpoint]
    rfl
  · rw [physicalToLocal, hcanonical.invert3_eq]
    show Except.ok (Position.ofTuple (matvec _ (Position.ofTuple _).asTuple)) = Except.ok v
    rw [Position.asTuple_ofTuple, matvec_cofactors_matvec rfl hdet, Position.ofTuple_asTuple]
  · rw [physicalToLocal, hcanonical.invert3_eq, hpoint]
    rfl
  · show Except.ok (Position.ofTuple (matvec _ (Position.ofTuple _).asTuple)) = Except.ok v
    rw [Position.asTuple_ofTuple, matvec_matvec_cofactors rfl hdet, Position.ofTuple_asTuple]

end Inverse

/-- The functions of `math` at the angle 0, and the root of 4. -/
def mathAtZero : MathFunctions ℚ where
  sin _ := 0
  cos _ := 1
  asin _ := 0
  atan2 _ _ := 0
  sqrt x := if x = 4 then 2 else 0
  pi := 3

/-- A sheared and left-handed basis. -/
def shearedBasis : Basis ℚ := ⟨(2, 0, 0), (1, 0, 3), (0, 1 / 2, 0)⟩

theorem basis_conversion_invertible_sheared :
    (∃ physical, localToPhysical (.position ⟨1, 2, 3⟩) shearedBasis = .ok physical ∧
      physicalToLocal (.position physical) shearedBasis = .ok ⟨1, 2, 3⟩) ∧
    (∃ back, physicalToLocal (.position ⟨1, 2, 3⟩) shearedBasis = .ok back ∧
      localToPhysical (.position back) shearedBasis = .ok ⟨1, 2, 3⟩) ∧
    canonicalBasis (basisAsMapping shearedBasis) = .ok shearedBasis :=
  basis_conversion_invertible
    (show canonicalBasis (basisAsMapping shearedBasis) = .ok shearedBasis by decide +kernel) rfl

end Exact
end Spatial
end HomeCortex
