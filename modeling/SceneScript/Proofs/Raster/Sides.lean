import SceneScript.Proofs.Raster.Box
import SceneScript.Proofs.Raster.Coverage

/-!
# The sides of a box on the screen

A side of a box is a parallelogram, in any coordinate system, and is drawn as two triangles. Both
have the normal of the side (`Vec3.normal_across`), so both are drawn in one colour or neither is,
and the box is drawn side by side (`Box.drawTriangles_mesh`). Where a parallelogram is not seen
edge-on, its two triangles fill it (`Triangle.fills_across`): the cells of the one and of the other
are the cells that it covers, and on the diagonal in which they meet both have the same fragments.

In exact arithmetic, whatever the corner and the size of the box, the transform, the view and the
colours are (`Box.sides_drawn_whole`).
-/

namespace SceneScript

/-! ## Parallelograms -/

section
variable {a b d p : Vec3 ℚ}

/-- A triangle that is half of a parallelogram has the normal of it. -/
theorem Vec3.normal_across : Vec3.normal a b (a.across b d 1 1) = Vec3.normal a b d ∧
    Vec3.normal a (a.across b d 1 1) d = Vec3.normal a b d := by
  simp only [Triangle.normal_eq, Triangle.area, across, Vec3.mk.injEq]
  refine ⟨⟨?_, ?_, ?_⟩, ?_, ?_, ?_⟩ <;> ring

/-- The points of a parallelogram are those of the two triangles in which a diagonal cuts it. -/
theorem Triangle.contains_across_iff : Contains a b (a.across b d 1 1) p ∨
    Contains a (a.across b d 1 1) d p ↔
      ∃ u v, (0 ≤ u ∧ u ≤ 1) ∧ (0 ≤ v ∧ v ≤ 1) ∧ p = a.across b d u v := by
  constructor
  · rintro (⟨u, v, w, hu, hv, hw, hsum, rfl⟩ | ⟨u, v, w, hu, hv, hw, hsum, rfl⟩)
    · refine ⟨v + w, w, ⟨by linarith, by linarith⟩, ⟨hw, by linarith⟩, ?_⟩
      obtain rfl : u = 1 - v - w := by linarith
      unfold Vec3.across
      congr 1 <;> ring
    · refine ⟨v, v + w, ⟨hv, by linarith⟩, ⟨by linarith, by linarith⟩, ?_⟩
      obtain rfl : u = 1 - v - w := by linarith
      unfold Vec3.across
      congr 1 <;> ring
  · rintro ⟨u, v, hu, hv, rfl⟩
    exact contains_across hu hv

end

namespace Triangle

section
variable {e : Extent} {colour : Rgb} {a b c d : Vec3 ℚ} {x y : Int} {t : ℚ}

/-- A triangle that is not seen edge-on meets the cells of the canvas over which it has points. -/
theorem mem_cells (harea : area a b c ≠ 0) : (x, y) ∈ cells e colour a b c ↔
    e.Contains x y ∧ ∃ z, Contains a b c ⟨x, y, z⟩ := by
  constructor
  · intro h
    obtain ⟨f, hf, hcell⟩ := List.mem_map.1 h
    obtain ⟨rfl, rfl⟩ := Prod.mk.inj hcell
    obtain ⟨-, hcanvas, hcontains⟩ := (mem_fragments harea).1 hf
    exact ⟨hcanvas, f.z, hcontains⟩
  · rintro ⟨hcanvas, z, hcontains⟩
    exact List.mem_map.2 ⟨⟨x, y, z, colour⟩, (mem_fragments harea).2 ⟨rfl, hcanvas, hcontains⟩, rfl⟩

/-- The triangles `a b c` and `a c d` fill the parallelogram that the corner `a` makes with its
neighbours `b` and `d`. -/
structure Fills (e : Extent) (colour : Rgb) (a b c d : Vec3 ℚ) : Prop where
  /-- The cells of both are the cells of the canvas that the parallelogram covers, its sides and
  corners included. -/
  cells : ∀ x y, (x, y) ∈ cells e colour a b c ∨ (x, y) ∈ cells e colour a c d ↔
    e.Contains x y ∧ ∃ u v, (0 ≤ u ∧ u ≤ 1) ∧ (0 ≤ v ∧ v ≤ 1) ∧
      (x : ℚ) = (a.across b d u v).x ∧ (y : ℚ) = (a.across b d u v).y
  /-- In a cell that both meet they have one depth. -/
  depth : ∀ f ∈ fragments e colour a b c, ∀ g ∈ fragments e colour a c d,
    f.cell = g.cell → f.z = g.z
  /-- Both meet the cells on their common diagonal, at the depth of the diagonal. -/
  seam : ∀ x y t, e.Contains x y → 0 ≤ t → t ≤ 1 →
    (x : ℚ) = (a.toward c t).x → (y : ℚ) = (a.toward c t).y →
    (⟨x, y, (a.toward c t).z, colour⟩ : Fragment ℚ) ∈ fragments e colour a b c ∧
      ⟨x, y, (a.toward c t).z, colour⟩ ∈ fragments e colour a c d

/-- A parallelogram that is not seen edge-on is filled by its two triangles. -/
theorem fills_across (e : Extent) (colour : Rgb) (harea : area a b d ≠ 0) :
    Fills e colour a b (a.across b d 1 1) d := by
  obtain ⟨hfirst, hsecond⟩ := Vec3.normal_across (a := a) (b := b) (d := d)
  have harea₁ : area a b (a.across b d 1 1) ≠ 0 := by
    rwa [show area a b (a.across b d 1 1) = area a b d from congrArg Vec3.z hfirst]
  have harea₂ : area a (a.across b d 1 1) d ≠ 0 := by
    rwa [show area a (a.across b d 1 1) d = area a b d from congrArg Vec3.z hsecond]
  refine ⟨fun x y => ?_, fun f hf g hg hcell => ?_, fun x y t hcanvas h₀ h₁ hx hy => ?_⟩
  · rw [mem_cells harea₁, mem_cells harea₂, ← and_or_left, ← exists_or]
    simp only [contains_across_iff]
    refine and_congr_right fun _ => ?_
    constructor
    · rintro ⟨z, u, v, hu, hv, heq⟩
      exact ⟨u, v, hu, hv, congrArg Vec3.x heq, congrArg Vec3.y heq⟩
    · rintro ⟨u, v, hu, hv, hx, hy⟩
      exact ⟨(a.across b d u v).z, u, v, hu, hv, by rw [hx, hy]⟩
  · -- both depths are those of one plane
    have hplane : planeDepth a b (a.across b d 1 1) = planeDepth a (a.across b d 1 1) d := by
      unfold planeDepth
      rw [hfirst, hsecond]
    obtain ⟨hx, hy⟩ := Prod.mk.inj hcell
    have hf := ((contains_iff_covers harea₁).1 ((mem_fragments harea₁).1 hf).2.2).2
    have hg := ((contains_iff_covers harea₂).1 ((mem_fragments harea₂).1 hg).2.2).2
    calc f.z = planeDepth a b (a.across b d 1 1) f.x f.y := hf
      _ = planeDepth a (a.across b d 1 1) d g.x g.y := by rw [hplane, hx, hy]
      _ = g.z := hg.symm
  · have hpoint : (⟨x, y, (a.toward (a.across b d 1 1) t).z⟩ : Vec3 ℚ) =
        a.toward (a.across b d 1 1) t := by rw [hx, hy]
    constructor
    · refine (mem_fragments harea₁).2 ⟨rfl, hcanvas, contains_swap.1 ?_⟩
      show Contains a _ b ⟨x, y, _⟩
      rw [hpoint]
      exact contains_toward h₀ h₁
    · refine (mem_fragments harea₂).2 ⟨rfl, hcanvas, ?_⟩
      show Contains a _ d ⟨x, y, _⟩
      rw [hpoint]
      exact contains_toward h₀ h₁

end

end Triangle

/-! ## Drawings one after another -/

namespace Drawing

variable {α : Type} {s : Stroke α} {d d' : Drawing α}

/-- A drawing and another one behind it. Behind a fault nothing is drawn. -/
def andThen (d d' : Drawing α) : Drawing α :=
  match d.outcome with
  | .ok n => ⟨d.fragments ++ d'.fragments, d'.outcome.map (n + ·)⟩
  | .error fault => ⟨d.fragments, .error fault⟩

/-- Behind nothing a drawing is as it is. -/
theorem empty_andThen : (empty : Drawing α).andThen d = d := by
  obtain ⟨fs, outcome⟩ := d
  cases outcome <;> simp [andThen, empty, Except.map]

/-- An item in front of two drawings is one in front of the first. -/
theorem cons_andThen : (cons s d).andThen d' = cons s (d.andThen d') := by
  obtain ⟨fs, fault?⟩ := s
  obtain ⟨gs, outcome⟩ := d
  cases fault? with
  | some fault => rfl
  | none =>
    cases outcome with
    | error fault => simp [andThen, cons, Except.map]
    | ok n =>
      obtain ⟨gs', outcome'⟩ := d'
      cases outcome' <;> simp [andThen, cons, Except.map, Nat.add_right_comm]

end Drawing

section
variable {α β : Type} [Scalar α]

/-- The first triangle is drawn in front of the others if it faces the viewer and has a colour. -/
theorem drawTriangles_cons (e : Extent) (s : Surface α) (p q r : Vec4 α) (rest : List (Vec4 α)) :
    drawTriangles e s (p :: q :: r :: rest) =
      if s.faces (Vec3.normal p.point q.point r.point) then
        match s.shade (Vec3.normal p.point q.point r.point) with
        | .error fault => ⟨[], .error fault⟩
        | .ok colour =>
          .cons (Triangle.stroke e colour p.point q.point r.point) (drawTriangles e s rest)
      else drawTriangles e s rest := rfl

/-- Two triangles with one normal are drawn in one colour, or not at all. -/
theorem drawTriangles_pair [Scalar.Exact α] (e : Extent) (s : Surface α) {p q r t : Vec4 α}
    (hnormal : Vec3.normal p.point r.point t.point = Vec3.normal p.point q.point r.point) :
    drawTriangles e s [p, q, r, p, r, t] =
      if s.faces (Vec3.normal p.point q.point r.point) then
        match s.shade (Vec3.normal p.point q.point r.point) with
        | .error fault => ⟨[], .error fault⟩
        | .ok colour => ⟨Triangle.fragments e colour p.point q.point r.point ++
            Triangle.fragments e colour p.point r.point t.point, .ok 2⟩
      else ⟨[], .ok 0⟩ := by
  rw [drawTriangles_cons, drawTriangles_cons, hnormal]
  split
  · split
    · rfl
    · simp [Triangle.stroke_eq, Drawing.cons, drawTriangles, Drawing.empty, Except.map]
  · rfl

/-- Triangles are drawn one after another. -/
theorem drawTriangles_append (e : Extent) (s : Surface α) (ts : List (β × β × β))
    (place : β → Vec4 α) (ps : List (Vec4 α)) :
    drawTriangles e s ((corners ts).map place ++ ps) =
      (drawTriangles e s ((corners ts).map place)).andThen (drawTriangles e s ps) := by
  induction ts with
  | nil => exact Drawing.empty_andThen.symm
  | cons t ts ih =>
    obtain ⟨a, b, c⟩ := t
    show drawTriangles e s (place a :: place b :: place c :: ((corners ts).map place ++ ps)) =
      (drawTriangles e s (place a :: place b :: place c :: (corners ts).map place)).andThen _
    rw [drawTriangles_cons, drawTriangles_cons, ih]
    split
    · split
      · rfl
      · exact Drawing.cons_andThen.symm
    · rfl

end

namespace Box

section
variable {α : Type} [Scalar α]

/-- The drawing of a side of a box, with its two triangles. -/
def drawSide (e : Extent) (s : Surface α) (m : Transform α) (corner size : Vec3 α) :
    Corner × Corner × Corner × Corner → Drawing α
  | (a, b, c, d) => drawTriangles e s
      ((corners (quad a b c d)).map fun k => m.apply (position corner size k).homogeneous)

/-- A box is drawn side by side. -/
theorem drawTriangles_mesh (e : Extent) (s : Surface α) (m : Transform α) (corner size : Vec3 α) :
    drawTriangles e s ((mesh corner size).transformed m) =
      sides.foldr (fun side d => (drawSide e s m corner size side).andThen d) .empty := by
  have hmesh : (mesh corner size).transformed m = (corners (sides.flatMap fun (a, b, c, d) =>
      quad a b c d)).map fun k => m.apply (position corner size k).homogeneous := List.map_map
  rw [hmesh]
  induction sides with
  | nil => rfl
  | cons side sides ih =>
    obtain ⟨a, b, c, d⟩ := side
    rw [List.foldr_cons, ← ih, drawSide, ← drawTriangles_append]
    simp only [List.flatMap_cons, corners, List.flatMap_append, List.map_append]

end

section
variable {e : Extent} {s : Surface ℚ} {m : Transform ℚ} {corner size : Vec3 ℚ} {a b c d : Corner}

/-- Where a corner of a box is seen under a transform. -/
def cornerAt (m : Transform ℚ) (corner size : Vec3 ℚ) (k : Corner) : Vec3 ℚ :=
  m.image (position corner size k)

/-- The sides of the mesh are the six sides. -/
theorem exists_side_of_mem_sides : ∀ q ∈ sides, ∃ side : Side, q = side.quad := by decide

/-- The image of a parallelogram is the parallelogram of the images. -/
theorem image_across {p q r : Vec3 ℚ} {u v : ℚ} :
    m.image (p.across q r u v) = (m.image p).across (m.image q) (m.image r) u v := by
  simp only [Transform.image_eq, Vec3.across, Vec3.mk.injEq]
  refine ⟨?_, ?_, ?_⟩ <;> ring

/-- Under any transform the sides are parallelograms. -/
theorem cornerAt_eq_across (h : (a, b, c, d) ∈ sides) : cornerAt m corner size c =
    (cornerAt m corner size a).across (cornerAt m corner size b) (cornerAt m corner size d)
      1 1 := by
  obtain ⟨side, hside⟩ := exists_side_of_mem_sides _ h
  have hposition : position corner size c =
      (position corner size a).across (position corner size b) (position corner size d) 1 1 := by
    have hquad : position corner size side.quad.2.2.1 = _ := position_quad
    rwa [← hside] at hquad
  rw [cornerAt, hposition, image_across]
  rfl

/-- Each side of a box is drawn whole, in one colour and without a seam. In exact arithmetic,
whatever the corner, the size, the transform, the view and the colours are, a box is drawn side by
side. The two triangles of a side have one normal, so both are drawn, in the one colour of it, or
neither is. Where a side is not seen edge-on, they fill the parallelogram that is seen of it. -/
theorem sides_drawn_whole (e : Extent) (s : Surface ℚ) (m : Transform ℚ) (corner size : Vec3 ℚ) :
    drawTriangles e s ((mesh corner size).transformed m) =
      sides.foldr (fun side d => (drawSide e s m corner size side).andThen d) .empty ∧
    ∀ a b c d, (a, b, c, d) ∈ sides → ∀ A B C D, A = cornerAt m corner size a →
      B = cornerAt m corner size b → C = cornerAt m corner size c → D = cornerAt m corner size d →
      Vec3.normal A C D = Vec3.normal A B C ∧
      drawSide e s m corner size (a, b, c, d) =
        (if s.faces (Vec3.normal A B C) then
          match s.shade (Vec3.normal A B C) with
          | .error fault => ⟨[], .error fault⟩
          | .ok colour =>
            ⟨Triangle.fragments e colour A B C ++ Triangle.fragments e colour A C D, .ok 2⟩
        else ⟨[], .ok 0⟩) ∧
      (Triangle.area A B C ≠ 0 → ∀ colour, Triangle.Fills e colour A B C D) := by
  refine ⟨drawTriangles_mesh e s m corner size, ?_⟩
  rintro a b c d hside _ _ _ _ rfl rfl rfl rfl
  have hacross : cornerAt m corner size c = _ := cornerAt_eq_across hside
  obtain ⟨hfirst, hsecond⟩ := Vec3.normal_across (a := cornerAt m corner size a)
    (b := cornerAt m corner size b) (d := cornerAt m corner size d)
  rw [← hacross] at hfirst hsecond
  have hnormal := hsecond.trans hfirst.symm
  refine ⟨hnormal, drawTriangles_pair e s hnormal, fun harea colour => ?_⟩
  have harea' : Triangle.area (cornerAt m corner size a) (cornerAt m corner size b)
      (cornerAt m corner size d) ≠ 0 := by
    rwa [show Triangle.area (cornerAt m corner size a) (cornerAt m corner size b)
      (cornerAt m corner size c) = _ from congrArg Vec3.z hfirst] at harea
  rw [hacross]
  exact Triangle.fills_across e colour harea'

/-- The front of a sheared box is drawn with two triangles, and both meet a cell on their
diagonal. -/
theorem sides_drawn_whole_sheared :
    (drawSide ⟨3, 3⟩ (.ofScreen fun _ => .black) sheared ⟨0, 1, 0⟩ ⟨1, 1, 1⟩
      Side.front.quad).outcome = .ok 2 ∧
    (⟨1, 1, 1, .black⟩ : Fragment ℚ) ∈
      Triangle.fragments ⟨3, 3⟩ .black ⟨0, 2, 1⟩ ⟨0, 0, 1⟩ ⟨2, 0, 1⟩ ∧
    (⟨1, 1, 1, .black⟩ : Fragment ℚ) ∈
      Triangle.fragments ⟨3, 3⟩ .black ⟨0, 2, 1⟩ ⟨2, 0, 1⟩ ⟨2, 2, 1⟩ := by
  obtain ⟨-, hsides⟩ := sides_drawn_whole ⟨3, 3⟩ (.ofScreen fun _ => .black) sheared ⟨0, 1, 0⟩
    ⟨1, 1, 1⟩
  obtain ⟨-, hdraw, hfills⟩ := hsides _ _ _ _ (quad_mem_sides (s := .front)) ⟨0, 2, 1⟩ ⟨0, 0, 1⟩
    ⟨2, 0, 1⟩ ⟨2, 2, 1⟩ (by norm_num [cornerAt, Transform.image_eq, position_eq, sheared])
    (by norm_num [cornerAt, Transform.image_eq, position_eq, sheared])
    (by norm_num [cornerAt, Transform.image_eq, position_eq, sheared])
    (by norm_num [cornerAt, Transform.image_eq, position_eq, sheared])
  have hfaces : (Surface.ofScreen fun _ => .black).faces
      (Vec3.normal ⟨0, 2, 1⟩ ⟨0, 0, 1⟩ ⟨2, 0, 1⟩) = true := by decide +kernel
  have hseam := (hfills (by norm_num [Triangle.area]) .black).seam 1 1 (1 / 2) (by decide)
    (by norm_num) (by norm_num) (by norm_num [Vec3.toward]) (by norm_num [Vec3.toward])
  have hz : (Vec3.toward ⟨0, 2, 1⟩ ⟨2, 0, 1⟩ (1 / 2) : Vec3 ℚ).z = 1 := by norm_num [Vec3.toward]
  rw [hz] at hseam
  refine ⟨?_, hseam⟩
  rw [show Side.front.quad = (_, _, _, _) from rfl, hdraw, if_pos hfaces]
  rfl

end

end Box

end SceneScript
