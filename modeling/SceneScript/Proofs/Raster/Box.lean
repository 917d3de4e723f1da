import SceneScript.Proofs.Raster.Depth
import SceneScript.Proofs.Raster.Fill
import SceneScript.Proofs.Space.Box

/-!
# What drawing a box shows

In exact arithmetic, under the view of the screen, the picture of a box is what its points show: the
depth of each cell is that of the nearest point of the box over it, and a cell over which there is
no point stays empty (`Box.drawing_shows_nearest`).

The drawing of triangles passes on the fragments of those that are seen from their front
(`mem_fragments_drawTriangles`), and these are the points of the triangles
(`Triangle.mem_fragments`). They all belong to the box, and the nearest point of the box over a cell
is one of them (`Box.exists_front_face`).
-/

namespace SceneScript

/-- Solids as the screen views them, with a colour for each normal. -/
def Surface.ofScreen (colour : Vec3 ℚ → Rgb) : Surface ℚ := ⟨⟨0, 0, 1⟩, fun n => .ok (colour n)⟩

/-- From the screen a side is seen if its normal points to the viewer. -/
theorem Surface.faces_ofScreen {colour : Vec3 ℚ → Rgb} {n : Vec3 ℚ} :
    (Surface.ofScreen colour).faces n = true ↔ 0 < n.z := by
  show (!decide (n.x * 0 + n.y * 0 + n.z * 1 ≤ 0)) = true ↔ 0 < n.z
  simp

/-- The drawing of labelled triangles whose sides all have a colour: the fragments of those that
face the viewer. -/
theorem drawTriangles_corners {α β : Type} [Scalar α] [Scalar.Exact α] (e : Extent) (s : Surface α)
    (colour : Vec3 α → Rgb) (hs : ∀ n, s.shade n = .ok (colour n)) (ts : List (β × β × β))
    (place : β → Vec4 α) : ∃ n, drawTriangles e s ((corners ts).map place) =
      ⟨ts.flatMap fun (a, b, c) =>
        if s.faces (Vec3.normal (place a).point (place b).point (place c).point) then
          Triangle.fragments e
            (colour (Vec3.normal (place a).point (place b).point (place c).point))
            (place a).point (place b).point (place c).point
        else [], .ok n⟩ := by
  induction ts with
  | nil => exact ⟨0, rfl⟩
  | cons t ts ih =>
    obtain ⟨a, b, c⟩ := t
    obtain ⟨n, ih⟩ := ih
    show ∃ k, drawTriangles e s (place a :: place b :: place c :: (corners ts).map place) = _
    unfold drawTriangles
    simp only [hs, ih, Triangle.stroke_eq, List.flatMap_cons]
    split
    · exact ⟨n + 1, rfl⟩
    · exact ⟨n, by simp⟩

/-- In exact arithmetic, under the view of the screen, the fragments of labelled triangles are the
points of those that are seen from their front, over the cells of the canvas. -/
theorem mem_fragments_drawTriangles {β : Type} {e : Extent} {colour : Vec3 ℚ → Rgb}
    {ts : List (β × β × β)} {place : β → Vec4 ℚ} {f : Fragment ℚ} :
    f ∈ (drawTriangles e (.ofScreen colour) ((corners ts).map place)).fragments ↔
      ∃ a b c, (a, b, c) ∈ ts ∧
        0 < Triangle.area (place a).point (place b).point (place c).point ∧
        f.colour = colour (Vec3.normal (place a).point (place b).point (place c).point) ∧
        e.Contains f.x f.y ∧
        Triangle.Contains (place a).point (place b).point (place c).point f.place := by
  obtain ⟨n, hn⟩ := drawTriangles_corners e (.ofScreen colour) colour (fun _ => rfl) ts place
  rw [hn, List.mem_flatMap]
  constructor
  · rintro ⟨⟨a, b, c⟩, hmem, hf⟩
    dsimp only at hf
    split at hf
    · next hface =>
      have harea := Surface.faces_ofScreen.1 hface
      exact ⟨a, b, c, hmem, harea, (Triangle.mem_fragments harea.ne').1 hf⟩
    · cases hf
  · rintro ⟨a, b, c, hmem, harea, hf⟩
    refine ⟨(a, b, c), hmem, ?_⟩
    dsimp only
    rw [if_pos (Surface.faces_ofScreen.2 harea)]
    exact (Triangle.mem_fragments harea.ne').2 hf

namespace Canvas

variable {c : Canvas ℚ} {fs : List (Fragment ℚ)} {x y : Int}

/-- A cell on which fragments fall has the greatest of their depths, if it was empty. -/
theorem isGreatest_depth?_paint (hin : c.extent.Contains x y)
    (hfs : ∃ f ∈ fs, f.isAt x y = true) : ∃ z, (c.clear.paint fs).depth? x y = some z ∧
      IsGreatest {z | ∃ f ∈ fs, f.isAt x y = true ∧ f.z = z} z := by
  have hranked : c.clear.Ranked := ranked_blank
  obtain ⟨after, ha, hfront⟩ := front_paint fs hranked (cell?_clear hin)
  have hmax : ∀ f ∈ fs, f.isAt x y = true → (f.z : WithBot ℚ) ≤ depthRank after.1 :=
    fun f hf hat => hfront.max f (List.mem_filter.2 ⟨hf, hat⟩) _ rfl
  rcases hfront.first with rfl | ⟨-, f, hf, rfl⟩
  · obtain ⟨f, hf, hat⟩ := hfs
    exact absurd (hmax f hf hat) (not_le.2 (WithBot.bot_lt_coe _))
  · obtain ⟨hf, hat⟩ := List.mem_filter.1 (List.mem_of_find?_eq_some hf)
    refine ⟨f.z, by rw [depth?_eq_cell?, ha]; rfl, ⟨f, hf, hat, rfl⟩, ?_⟩
    rintro _ ⟨g, hg, hgat, rfl⟩
    exact WithBot.coe_le_coe.1 (hmax g hg hgat)

/-- A cell on which no fragment falls stays empty. -/
theorem cell?_paint_of_not_isAt (hin : c.extent.Contains x y)
    (hfs : ∀ f ∈ fs, ¬ f.isAt x y = true) :
    (c.clear.paint fs).cell? x y = some (none, c.background) := by
  rw [cell?_paint, cell?_clear hin, List.filter_eq_nil_iff.2 hfs]
  rfl

end Canvas

namespace Box

/-- The depths of the points of a box over a cell, when it is seen under a transform. -/
def depthsOver (corner size : Vec3 ℚ) (m : Transform ℚ) (x y : Int) : Set ℚ :=
  {z | ∃ p, Contains corner size p ∧ m.image p = ⟨x, y, z⟩}

section
variable {corner size : Vec3 ℚ} {m : Transform ℚ} {e : Extent} {colour : Vec3 ℚ → Rgb}
  {f : Fragment ℚ} {x y : Int} {z : ℚ}

/-- The points of a box that are drawn, by the corners that they are images of. -/
theorem transformed_mesh : (mesh corner size).transformed m =
    (corners faces).map fun k => m.apply (position corner size k).homogeneous :=
  List.map_map

/-- The fragments of a box are points of it. -/
theorem mem_depthsOver_of_mem_fragments (hx : 0 < size.x) (hy : 0 < size.y) (hz : 0 < size.z)
    (hf : f ∈ (drawTriangles e (.ofScreen colour) ((mesh corner size).transformed m)).fragments)
    (hat : f.isAt x y = true) : f.z ∈ depthsOver corner size m x y := by
  obtain ⟨rfl, rfl⟩ : f.x = x ∧ f.y = y := by simpa [Fragment.isAt] using hat
  rw [transformed_mesh] at hf
  obtain ⟨a, b, c, -, -, -, -, hcontains⟩ := mem_fragments_drawTriangles.1 hf
  obtain ⟨p, hp, himage⟩ := Transform.contains_image.1 hcontains
  exact ⟨p, .of_triangle hx.le hy.le hz.le hp, himage⟩

/-- Over a cell of the canvas, each point of a box has a fragment in front of it, or is one. -/
theorem exists_fragment_of_mem_depthsOver (hm : m.IsAffine) (hdet : 0 < m.matrix.det)
    (hx : 0 < size.x) (hy : 0 < size.y) (hz : 0 < size.z) (hin : e.Contains x y)
    (h : z ∈ depthsOver corner size m x y) :
    ∃ f ∈ (drawTriangles e (.ofScreen colour) ((mesh corner size).transformed m)).fragments,
      f.isAt x y = true ∧ z ≤ f.z := by
  obtain ⟨p, hp, himage⟩ := h
  obtain ⟨a, b, c, z', hface, hle, harea, hcontains⟩ := exists_front_face hm hdet hx hy hz hp
  rw [himage] at hle hcontains
  rw [transformed_mesh]
  exact ⟨⟨x, y, z', _⟩, mem_fragments_drawTriangles.2
    ⟨a, b, c, hface, harea, rfl, hin, hcontains⟩, by simp [Fragment.isAt], hle⟩

end

/-- Rendering a box agrees with casting rays. In exact arithmetic and under the view of the screen,
a box of positive width, height and depth is drawn on an empty canvas so that each cell has the
depth of the nearest point of the box over it, and stays empty if there is none. The transform may
be any affine one with a positive determinant, and the sides may have any colours. -/
theorem drawing_shows_nearest (corner size : Vec3 ℚ) (hx : 0 < size.x) (hy : 0 < size.y)
    (hz : 0 < size.z) (m : Transform ℚ) (hm : m.IsAffine) (hdet : 0 < m.matrix.det)
    (colour : Vec3 ℚ → Rgb) (c : Canvas ℚ) :
    ∃ d, drawTriangles c.extent (.ofScreen colour) ((mesh corner size).transformed m) = d ∧
      (∃ n, d.outcome = .ok n) ∧
      ∀ x y, c.extent.Contains x y →
        ((depthsOver corner size m x y).Nonempty →
          ∃ z, (c.clear.paint d.fragments).depth? x y = some z ∧
            IsGreatest (depthsOver corner size m x y) z) ∧
        (depthsOver corner size m x y = ∅ →
          (c.clear.paint d.fragments).depth? x y = none ∧
          (c.clear.paint d.fragments).colour? x y = some c.background) := by
  refine ⟨_, rfl, ?_, fun x y hin => ⟨fun hne => ?_, fun hnone => ?_⟩⟩
  · obtain ⟨n, hn⟩ := drawTriangles_corners c.extent (.ofScreen colour) colour (fun _ => rfl) faces
      fun k => m.apply (position corner size k).homogeneous
    exact ⟨n, by rw [transformed_mesh, hn]⟩
  · obtain ⟨z₀, hz₀⟩ := hne
    obtain ⟨f₀, hf₀, hat₀, -⟩ := exists_fragment_of_mem_depthsOver hm hdet hx hy hz hin hz₀
    obtain ⟨z, hdepth, ⟨f, hf, hat, rfl⟩, hmax⟩ :=
      Canvas.isGreatest_depth?_paint hin ⟨f₀, hf₀, hat₀⟩
    refine ⟨f.z, hdepth, ?_, fun z' hz' => ?_⟩
    · exact mem_depthsOver_of_mem_fragments hx hy hz hf hat
    · obtain ⟨g, hg, hgat, hle⟩ := exists_fragment_of_mem_depthsOver hm hdet hx hy hz hin hz'
      exact hle.trans (hmax ⟨g, hg, hgat, rfl⟩)
  · have hfs : ∀ f ∈ (drawTriangles c.extent (.ofScreen colour)
        ((mesh corner size).transformed m)).fragments, ¬ f.isAt x y = true := by
      intro f hf hat
      have hz' := mem_depthsOver_of_mem_fragments hx hy hz hf hat
      rw [hnone] at hz'
      exact hz'
    have hcell := Canvas.cell?_paint_of_not_isAt hin hfs
    rw [Canvas.depth?_eq_cell?, Canvas.colour?_eq_cell?, hcell]
    exact ⟨rfl, rfl⟩

/-- A transform that moves, scales and shears. -/
def sheared : Transform ℚ := ⟨⟨2, 0, 1, 0⟩, ⟨0, 2, 0, 0⟩, ⟨0, 0, 3, 1⟩, ⟨0, 0, 0, 1⟩⟩

/-- The lower left cell of a canvas shows a sheared box. -/
theorem drawing_shows_nearest_sheared :
    ∃ z, ((Canvas.blank ⟨2, 2⟩ .white).clear.paint (drawTriangles ⟨2, 2⟩ (.ofScreen fun _ => .black)
        ((mesh ⟨0, 1, 0⟩ ⟨1, 1, 1⟩).transformed sheared)).fragments).depth? 0 0 = some z ∧
      IsGreatest (depthsOver ⟨0, 1, 0⟩ ⟨1, 1, 1⟩ sheared 0 0) z := by
  have haffine : sheared.IsAffine := rfl
  have hdet : 0 < sheared.matrix.det := by
    rw [Transform.det_matrix haffine]
    norm_num [Transform.sight, sheared]
  obtain ⟨_, rfl, -, hcell⟩ := drawing_shows_nearest ⟨0, 1, 0⟩ ⟨1, 1, 1⟩ one_pos one_pos one_pos
    sheared haffine hdet (fun _ => .black) (Canvas.blank ⟨2, 2⟩ .white)
  refine (hcell 0 0 (by decide)).1 ⟨1, ⟨0, 0, 0⟩, ?_, ?_⟩
  · norm_num [Contains]
  · norm_num [Transform.image_eq, sheared]

end Box

end SceneScript
