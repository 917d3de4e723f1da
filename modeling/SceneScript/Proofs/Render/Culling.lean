import SceneScript.Proofs.Render.Volumes
import SceneScript.Proofs.Space.Box
import SceneScript.Proofs.Space.Normals

/-!
# Which sides of a box are drawn

A box lies behind all of its triangles (`Box.isOutwardNormal_normal`), so in a coordinate system that
can be undone its outward normals are the normals that are computed there, times the determinant. The
culling looks at the computed ones. It keeps the triangles that face the viewer where the system
keeps the orientation of space, and those that face away where the system mirrors it
(`Box.mem_survivors_iff`): in a mirror the back of a box is drawn in place of its front.
-/

open Matrix

namespace SceneScript

namespace Box

section
variable {K : Type} [Field K] [LinearOrder K] [FloorRing K]

/-- The points of the box with the given left upper front corner, width, height and depth. -/
def solid (corner size : Vec3 K) : Set (Vec3 K) :=
  {p | (corner.x ≤ p.x ∧ p.x ≤ corner.x + size.x) ∧ (corner.y - size.y ≤ p.y ∧ p.y ≤ corner.y) ∧
    corner.z - size.z ≤ p.z ∧ p.z ≤ corner.z}

/-- The direction that points out of a side. -/
def Side.direction : Side → Vec3 K
  | front => ⟨0, 0, 1⟩
  | back => ⟨0, 0, -1⟩
  | right => ⟨1, 0, 0⟩
  | left => ⟨-1, 0, 0⟩
  | upper => ⟨0, 1, 0⟩
  | lower => ⟨0, -1, 0⟩

/-- Each triangle of the mesh is one half of a side. -/
theorem exists_side_of_mem_faces : ∀ t ∈ faces, ∃ s : Side,
    t = (s.quad.1, s.quad.2.1, s.quad.2.2.1) ∨ t = (s.quad.1, s.quad.2.2.1, s.quad.2.2.2) := by
  decide

variable [IsStrictOrderedRing K] {corner size p : Vec3 K} {a b c : Corner} {s : Side}

omit [IsStrictOrderedRing K] in
/-- The coordinates of a corner in the arithmetic of the field. -/
theorem position_coordinates {k : Corner} : position corner size k =
    ⟨if k.right then corner.x + size.x else corner.x, if k.low then corner.y - size.y else corner.y,
      if k.back then corner.z - size.z else corner.z⟩ := rfl

/-- The normals of the triangles of a side point out of it. -/
theorem exists_normal_eq (corner : Vec3 K) (hx : 0 < size.x) (hy : 0 < size.y) (hz : 0 < size.z)
    (h : (a, b, c) ∈ faces) : ∃ (s : Side) (t : K), 0 < t ∧ a = s.quad.1 ∧
      Vec3.normal (position corner size a) (position corner size b) (position corner size c) =
        s.direction.scale t := by
  obtain ⟨s, h⟩ := exists_side_of_mem_faces _ h
  refine ⟨s, match s with
    | .front | .back => size.x * size.y
    | .right | .left => size.y * size.z
    | .upper | .lower => size.x * size.z, ?_, ?_, ?_⟩
  · cases s <;> positivity
  · rcases h with h | h <;> exact congrArg Prod.fst h
  · rcases h with h | h <;> cases h <;> cases s <;>
      simp only [Side.quad, Side.direction, Vec3.normal_eq, Vec3.scale_eq, position_coordinates,
        if_true, Bool.false_eq_true, if_false, Vec3.mk.injEq] <;> refine ⟨?_, ?_, ?_⟩ <;> ring

/-- A box lies behind its sides. -/
theorem direction_dot_nonpos (hp : p ∈ solid corner size) :
    s.direction.dot (p.sub (position corner size s.quad.1)) ≤ 0 := by
  obtain ⟨⟨hl, hr⟩, ⟨hb, ht⟩, hd, hf⟩ := hp
  cases s <;> simp only [Side.direction, Side.quad, Vec3.dot_eq, Vec3.sub_eq, position_coordinates,
    if_true, Bool.false_eq_true, if_false] <;> linarith

/-- The middle of a box is not on its sides. -/
theorem exists_direction_dot_neg (corner : Vec3 K) (hx : 0 < size.x) (hy : 0 < size.y)
    (hz : 0 < size.z) :
    ∃ p ∈ solid corner size, ∀ s : Side,
      s.direction.dot (p.sub (position corner size s.quad.1)) < 0 := by
  have hcentre : (⟨corner.x + size.x / 2, corner.y - size.y / 2, corner.z - size.z / 2⟩ : Vec3 K) ∈
      solid corner size := by
    refine ⟨⟨?_, ?_⟩, ⟨?_, ?_⟩, ?_, ?_⟩ <;> dsimp only <;> linarith
  refine ⟨_, hcentre, fun s => ?_⟩
  cases s <;> simp only [Side.direction, Side.quad, Vec3.dot_eq, Vec3.sub_eq, position_coordinates,
    if_true, Bool.false_eq_true, if_false] <;> linarith

/-- The normals of the triangles of a box are outward normals. -/
theorem isOutwardNormal_normal (hx : 0 < size.x) (hy : 0 < size.y) (hz : 0 < size.z)
    (h : (a, b, c) ∈ faces) : IsOutwardNormal (solid corner size) (position corner size a)
      (position corner size b) (position corner size c)
      (Vec3.normal (position corner size a) (position corner size b) (position corner size c)) := by
  obtain ⟨s, t, ht, rfl, hn⟩ := exists_normal_eq corner hx hy hz h
  refine ⟨?_, Vec3.normal_dot_second, Vec3.normal_dot_third, fun p hp => ?_⟩
  · rw [hn, Ne, Vec3.scale_eq_zero]
    rintro (h0 | h0)
    · exact ht.ne' h0
    · cases s <;> simp [Side.direction] at h0
  · rw [hn, Vec3.scale_dot]
    exact mul_nonpos_of_nonneg_of_nonpos ht.le (direction_dot_nonpos hp)

/-- A box has points behind each of its triangles. -/
theorem exists_normal_dot_neg (hx : 0 < size.x) (hy : 0 < size.y) (hz : 0 < size.z)
    (h : (a, b, c) ∈ faces) : ∃ p ∈ solid corner size,
      (Vec3.normal (position corner size a) (position corner size b)
        (position corner size c)).dot (p.sub (position corner size a)) < 0 := by
  obtain ⟨s, t, ht, rfl, hn⟩ := exists_normal_eq corner hx hy hz h
  obtain ⟨p, hp, hneg⟩ := exists_direction_dot_neg corner hx hy hz
  refine ⟨p, hp, ?_⟩
  rw [hn, Vec3.scale_dot]
  exact mul_neg_of_pos_of_neg ht (hneg s)

end

end Box

section
variable {α β : Type} [Scalar α]

/-- The normal of the image of a triangle, computed from the points that are drawn. -/
def Transform.normal (m : Transform α) (a b c : Vec3 α) : Vec3 α :=
  Vec3.normal (m.apply a.homogeneous).point (m.apply b.homogeneous).point
    (m.apply c.homogeneous).point

/-- Whether the image of a labelled triangle survives the culling of those that face away. -/
def Surface.keeps (s : Surface α) (m : Transform α) (position : β → Vec3 α) (t : β × β × β) : Bool :=
  s.faces (m.normal (position t.1) (position t.2.1) (position t.2.2))

/-- The fragments of the image of a labelled triangle. -/
def Surface.fragments (e : Extent) (colour : Vec3 α → Rgb) (m : Transform α) (position : β → Vec3 α)
    (t : β × β × β) : List (Fragment α) :=
  Triangle.fragments e (colour (m.normal (position t.1) (position t.2.1) (position t.2.2)))
    (m.apply (position t.1).homogeneous).point (m.apply (position t.2.1).homogeneous).point
    (m.apply (position t.2.2).homogeneous).point

/-- The drawing of a transformed mesh whose sides all have a colour: the triangles that survive the
culling, and their number. -/
theorem drawTriangles_transformed [Scalar.Exact α] (e : Extent) (s : Surface α)
    {colour : Vec3 α → Rgb} (hs : ∀ n, s.shade n = .ok (colour n)) (m : Transform α)
    (faces : List (β × β × β)) (position : β → Vec3 α) :
    drawTriangles e s ((Mesh.ofFaces faces position).transformed m) =
      ⟨(faces.filter (s.keeps m position)).flatMap (Surface.fragments e colour m position),
        .ok (faces.filter (s.keeps m position)).length⟩ := by
  induction faces with
  | nil => rfl
  | cons t ts ih =>
    obtain ⟨a, b, c⟩ := t
    show drawTriangles e s (m.apply (position a).homogeneous :: m.apply (position b).homogeneous ::
      m.apply (position c).homogeneous :: (Mesh.ofFaces ts position).transformed m) = _
    simp only [drawTriangles, Triangle.stroke_eq, ih, hs]
    show (if s.keeps m position (a, b, c) then _ else _) = _
    cases hkeep : s.keeps m position (a, b, c) with
    | true => rw [List.filter_cons_of_pos hkeep]; rfl
    | false => rw [List.filter_cons_of_neg (by simp [hkeep])]; rfl

end

section
variable {K : Type} [Field K] [LinearOrder K] [FloorRing K] {s : Surface K} {m : Transform K}
  {a b c p v : Vec3 K}

/-- The point that is drawn for a point is where it is placed. -/
theorem Transform.point_apply : (m.apply p.homogeneous).point = m.place p := by
  show (⟨m.row₁.x * p.x + m.row₁.y * p.y + m.row₁.z * p.z + m.row₁.w * 1,
    m.row₂.x * p.x + m.row₂.y * p.y + m.row₂.z * p.z + m.row₂.w * 1,
    m.row₃.x * p.x + m.row₃.y * p.y + m.row₃.z * p.z + m.row₃.w * 1⟩ : Vec3 K) = m.place p
  simp only [mul_one, place]

/-- A side is drawn if its normal has an acute angle with the line of sight. -/
theorem Surface.faces_iff : s.faces v = true ↔ 0 < v.dot s.view := by
  show (!decide (v.dot s.view ≤ 0)) = true ↔ _
  rw [Bool.not_eq_true', decide_eq_false_iff_not, not_le]

end

namespace Box

/-- The triangles of a box that survive the culling in a coordinate system. -/
def survivors {α : Type} [Scalar α] (s : Surface α) (m : Transform α) (corner size : Vec3 α) :
    List (Corner × Corner × Corner) :=
  faces.filter (s.keeps m (position corner size))

section
variable {K : Type} [Field K] [LinearOrder K] [FloorRing K]

/-- Whether a direction is an outward normal of a box in a coordinate system, on a triangle. -/
def IsOutward (m : Transform K) (corner size : Vec3 K) (t : Corner × Corner × Corner)
    (v : Vec3 K) : Prop :=
  IsOutwardNormal (m.place '' solid corner size) (m.place (position corner size t.1))
    (m.place (position corner size t.2.1)) (m.place (position corner size t.2.2)) v

variable [IsStrictOrderedRing K] {s : Surface K} {m : Transform K} {corner size v : Vec3 K}
  {t : Corner × Corner × Corner}

/-- In a system that can be undone a box has outward normals. -/
theorem exists_isOutward (hdet : m.linear.det ≠ 0) (hx : 0 < size.x) (hy : 0 < size.y)
    (hz : 0 < size.z) (ht : t ∈ faces) : ∃ v, IsOutward m corner size t v :=
  ⟨_, (isOutwardNormal_normal hx hy hz ht).image hdet⟩

/-- A triangle of a box survives the culling if its outward normals have an acute angle with the line
of sight, but in a system that mirrors space if they have an obtuse one. -/
theorem mem_survivors_iff (hdet : m.linear.det ≠ 0) (hx : 0 < size.x) (hy : 0 < size.y)
    (hz : 0 < size.z) (ht : t ∈ faces) (hv : IsOutward m corner size t v) :
    t ∈ survivors s m corner size ↔ 0 < m.linear.det * v.dot s.view := by
  obtain ⟨k, hk, heq⟩ := (isOutwardNormal_normal hx hy hz ht).exists_scale_eq
    (exists_normal_dot_neg hx hy hz ht) hdet hv
  rw [survivors, List.mem_filter, Surface.keeps, Surface.faces_iff, Transform.normal,
    Transform.point_apply, Transform.point_apply, Transform.point_apply, ← Vec3.scale_dot, ← heq,
    Vec3.scale_dot, mul_pos_iff_of_pos_left hk]
  exact and_iff_right ht

end

end Box

namespace Render

/-- A box whose sides all have a colour is drawn by the triangles that survive the culling. -/
theorem perform_box {α σ : Type} [Scalar α] [Scalar.Exact α] [Trig α] {settings : Settings α}
    {out : Output σ} {colour : Vec3 α → Rgb} (hs : ∀ n, settings.surface.shade n = .ok (colour n))
    (corner size : Vec3 α) (s : RenderState α σ) :
    perform settings out (.box corner size) s = .ok () { s with
      canvas := s.canvas.paint ((Box.survivors settings.surface s.stack.top corner size).flatMap
        (Surface.fragments s.canvas.extent colour s.stack.top (Box.position corner size)))
      draws := s.draws.push ⟨.triangles, (Box.mesh corner size).transformed s.stack.top,
        (Box.survivors settings.surface s.stack.top corner size).length⟩ } := by
  show draw .triangles ((Box.mesh corner size).transformed s.stack.top)
    (fun e points => drawTriangles e settings.surface points) s = _
  rw [draw, Box.mesh, drawTriangles_transformed _ _ hs]
  rfl

section
variable {K σ : Type} [Field K] [LinearOrder K] [FloorRing K] [IsStrictOrderedRing K] [Trig K]
  {settings : Settings K} {out : Output σ} {ops : List (Operation K)} {s s' : RenderState K σ}

/-- Which sides of a box are drawn. Let operations be performed from a stack with the system of the
screen alone, in exact arithmetic in which the cosine and the sine of each angle lie on the unit
circle, and let the system that they make be one that can be undone. Its determinant is the product
of the factors of the live scalings. A box in this system has outward normals on each of its
triangles. A triangle survives the culling if its outward normals have an acute angle with the line
of sight, but if the determinant is negative, so that the system mirrors space, when they have an
obtuse one. The triangles that survive are drawn. -/
theorem execute_culling
    (hunit : ∀ a c s, Trig.degrees a = .ok (c, s) → c * c + s * s = (1 : K))
    (h : execute settings out ops s = .ok () s') (hs : s.stack = .initial)
    (hdet : s'.stack.top.linear.det ≠ 0) (corner size : Vec3 K) (hx : 0 < size.x)
    (hy : 0 < size.y) (hz : 0 < size.z) :
    s'.stack.top.linear.det = Operation.stretch s.knobs (Operation.live ops) ∧
    (∀ t ∈ Box.faces, (∃ v, Box.IsOutward s'.stack.top corner size t v) ∧
      ∀ v, Box.IsOutward s'.stack.top corner size t v →
        (t ∈ Box.survivors settings.surface s'.stack.top corner size ↔
          0 < s'.stack.top.linear.det * v.dot settings.surface.view)) ∧
    ∀ colour, (∀ n, settings.surface.shade n = .ok (colour n)) →
      perform settings out (.box corner size) s' = .ok () { s' with
        canvas := s'.canvas.paint
          ((Box.survivors settings.surface s'.stack.top corner size).flatMap
            (Surface.fragments s'.canvas.extent colour s'.stack.top (Box.position corner size)))
        draws := s'.draws.push ⟨.triangles, (Box.mesh corner size).transformed s'.stack.top,
          (Box.survivors settings.surface s'.stack.top corner size).length⟩ } := by
  refine ⟨execute_det_top hunit h hs, fun t ht => ⟨Box.exists_isOutward hdet hx hy hz ht, ?_⟩,
    fun colour hcolour => perform_box hcolour corner size s'⟩
  exact fun v hv => Box.mem_survivors_iff hdet hx hy hz ht hv

end

/-- A system that is stretched by a negative knob mirrors space, so what is drawn of a box in it are
the sides that face away from the viewer. -/
theorem execute_culling_turnedLine : ∃ s',
    execute realSettings (Gallery.output {}) turnedLine realState = .ok () s' ∧
    s'.stack.top.linear.det = -48 ∧
    ∀ t ∈ Box.faces, ∃ v, Box.IsOutward s'.stack.top ⟨1, 2, 3⟩ ⟨1, 1, 1⟩ t v ∧
      (t ∈ Box.survivors realSettings.surface s'.stack.top ⟨1, 2, 3⟩ ⟨1, 1, 1⟩ ↔
        v.dot realSettings.surface.view < 0) := by
  have hunit : ∀ a c s, Trig.degrees a = .ok (c, s) → c * c + s * s = (1 : ℝ) :=
    fun _ _ _ => Trig.unit_of_real
  obtain ⟨s', h, -⟩ := exists_execute_turnedLine
  have hdet : s'.stack.top.linear.det = -48 := by
    have hfactors : (Operation.live turnedLine).filterMap (Operation.factors? realState.knobs) =
      [⟨2 * -2, 1 * -2, 3 * -2⟩] := rfl
    rw [execute_det_top hunit h rfl, Operation.stretch, hfactors]
    norm_num
  have hone : (0 : ℝ) < 1 := by norm_num
  obtain ⟨-, hfaces, -⟩ :=
    execute_culling hunit h rfl (by rw [hdet]; norm_num) ⟨1, 2, 3⟩ ⟨1, 1, 1⟩ hone hone hone
  refine ⟨s', h, hdet, fun t ht => ?_⟩
  obtain ⟨⟨v, hv⟩, hiff⟩ := hfaces t ht
  refine ⟨v, hv, (hiff v hv).trans ?_⟩
  rw [hdet]
  constructor <;> intro hlt <;> linarith

/-- One half of the front of a box. -/
def frontHalf : Box.Corner × Box.Corner × Box.Corner :=
  (⟨false, false, false⟩, ⟨false, true, false⟩, ⟨true, true, false⟩)

/-- In a mirror the front of a box is not drawn, though its outward normal points to the viewer. -/
theorem exists_culled_front : ∃ s',
    execute realSettings (Gallery.output {}) [.scale ⟨-1, 1, 1⟩ none] realState = .ok () s' ∧
    s'.stack.top.linear.det ≠ 0 ∧ frontHalf ∈ Box.faces ∧
    Box.IsOutward s'.stack.top ⟨-3, 3, 0⟩ ⟨3, 3, 2⟩ frontHalf ⟨0, 0, 1⟩ ∧
    0 < Vec3.dot ⟨0, 0, 1⟩ realSettings.surface.view ∧
    frontHalf ∉ Box.survivors realSettings.surface s'.stack.top ⟨-3, 3, 0⟩ ⟨3, 3, 2⟩ := by
  have h : ∃ s',
      execute realSettings (Gallery.output {}) [.scale ⟨-1, 1, 1⟩ none] realState = .ok () s' ∧
        s'.stack.top = Transform.identity.compose (.scaling ⟨-1, 1, 1⟩) := ⟨_, rfl, rfl⟩
  obtain ⟨s', h, htop⟩ := h
  have hmem : frontHalf ∈ Box.faces := by decide
  have hdet : s'.stack.top.linear.det = -1 := by
    rw [htop, Transform.linear_compose rfl, Transform.linear_identity, one_mul,
      Transform.det_linear_scaling]
    norm_num
  have hplace (p : Vec3 ℝ) : s'.stack.top.place p = ⟨-p.x, p.y, p.z⟩ := by
    rw [htop]
    simp [Transform.place, Transform.compose, Transform.composeRow_eq, Transform.identity,
      Transform.scaling]
  have hout : Box.IsOutward s'.stack.top ⟨-3, 3, 0⟩ ⟨3, 3, 2⟩ frontHalf ⟨0, 0, 1⟩ := by
    refine ⟨by simp, ?_, ?_, ?_⟩
    · simp [frontHalf, hplace, Vec3.dot_eq, Vec3.sub_eq, Box.position_coordinates]
    · simp [frontHalf, hplace, Vec3.dot_eq, Vec3.sub_eq, Box.position_coordinates]
    · rintro _ ⟨p, ⟨-, -, -, hp⟩, rfl⟩
      simpa [frontHalf, hplace, Vec3.dot_eq, Vec3.sub_eq, Box.position_coordinates] using hp
  have hview : Vec3.dot ⟨0, 0, 1⟩ realSettings.surface.view = 1 := by
    rw [Vec3.dot_eq]
    simp [realSettings]
  have hthree : (0 : ℝ) < 3 := by norm_num
  have htwo : (0 : ℝ) < 2 := by norm_num
  have hiff := Box.mem_survivors_iff (s := realSettings.surface) (by rw [hdet]; norm_num) hthree
    hthree htwo hmem hout
  refine ⟨s', h, by rw [hdet]; norm_num, hmem, hout, by rw [hview]; norm_num, ?_⟩
  rw [hiff, hdet, hview]
  norm_num

end Render

end SceneScript
