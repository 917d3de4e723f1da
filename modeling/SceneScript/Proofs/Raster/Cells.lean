import SceneScript.Raster.Draw

/-!
# A canvas cell by cell

What a canvas shows in a cell is a depth, if anything is drawn there, and a colour (`Canvas.cell?`).
A canvas is determined by its cells (`Canvas.ext_cell?`). Letting a fragment in changes one cell
(`cell?_plot`), so what a list of fragments makes of a cell is a fold over those of them that fall
on it (`cell?_paint`).

A `DrawRequest` is a call that draws, with all that it is given but the canvas. What it passes to
the canvas does not depend on what the canvas shows, so a sequence of calls paints the fragments of
each of them in turn (`drawAll_eq_paint`).
-/

namespace SceneScript

namespace Extent

variable {e : Extent} {x y x' y' : Int}

/-- The coordinates that are those of a cell. -/
def Contains (e : Extent) (x y : Int) : Prop := 0 ≤ x ∧ x < e.width ∧ 0 ≤ y ∧ y < e.height

instance : Decidable (e.Contains x y) := inferInstanceAs (Decidable (_ ∧ _ ∧ _ ∧ _))

/-- The places of a canvas are its cells. -/
theorem index?_eq_some_iff {i : Fin (e.width * e.height)} :
    e.index? x y = some i ↔ e.Contains x y ∧ i.val = y.toNat * e.width + x.toNat := by
  unfold index? Contains
  split
  · next h => simp [h, Fin.ext_iff, eq_comm]
  · next h => simp [h]

/-- Coordinates have a place exactly if they are those of a cell. -/
theorem isSome_index? : (e.index? x y).isSome = true ↔ e.Contains x y := by
  unfold index? Contains
  split <;> simp_all

/-- No two cells share a place. -/
theorem index?_inj {i : Fin (e.width * e.height)} (h : e.index? x y = some i)
    (h' : e.index? x' y' = some i) : x = x' ∧ y = y' := by
  obtain ⟨⟨hx, hxw, hy, hyh⟩, hi⟩ := index?_eq_some_iff.1 h
  obtain ⟨⟨hx', hxw', hy', hyh'⟩, hi'⟩ := index?_eq_some_iff.1 h'
  have heq : x.toNat + e.width * y.toNat = x'.toNat + e.width * y'.toNat := by
    rw [Nat.add_comm, Nat.mul_comm, ← hi, hi', Nat.add_comm, Nat.mul_comm]
  -- the column is the remainder of the place and the row its quotient
  have hcol : x.toNat = x'.toNat := by
    have := congrArg (· % e.width) heq
    simpa [Nat.mod_eq_of_lt (show x.toNat < e.width by omega),
      Nat.mod_eq_of_lt (show x'.toNat < e.width by omega)] using this
  have hrow : y.toNat = y'.toNat := by
    have h0 : 0 < e.width := by omega
    rw [hcol] at heq
    exact Nat.eq_of_mul_eq_mul_left h0 (by omega)
  omega

/-- Every place is that of a cell. -/
theorem exists_index?_eq (i : Fin (e.width * e.height)) : ∃ x y, e.index? x y = some i := by
  have h0 : 0 < e.width := Nat.pos_of_mul_pos_right (Nat.zero_lt_of_lt i.isLt)
  have hrow : i.val / e.width < e.height := Nat.div_lt_of_lt_mul i.isLt
  have hcol : i.val % e.width < e.width := Nat.mod_lt _ h0
  refine ⟨(i.val % e.width : Nat), (i.val / e.width : Nat), index?_eq_some_iff.2 ⟨?_, ?_⟩⟩
  · exact ⟨Int.natCast_nonneg _, by exact_mod_cast hcol, Int.natCast_nonneg _,
      by exact_mod_cast hrow⟩
  · rw [Int.toNat_natCast, Int.toNat_natCast]
    exact (Nat.div_add_mod' i.val e.width).symm

end Extent

section
variable {α : Type}

/-- What a fragment makes of a cell on which it falls: it takes the cell if it is nearer. -/
def Fragment.enter [Scalar α] (cell : Option α × Rgb) (f : Fragment α) : Option α × Rgb :=
  if Canvas.nearer cell.1 f.z then (some f.z, f.colour) else cell

/-- Whether a fragment falls on a cell. -/
def Fragment.isAt (x y : Int) (f : Fragment α) : Bool := f.x = x ∧ f.y = y

namespace Canvas

variable {c c' : Canvas α} {x y : Int}

/-- The depth and the colour of a cell, if it is one. -/
def cell? (c : Canvas α) (x y : Int) : Option (Option α × Rgb) :=
  (c.extent.index? x y).map fun i => (c.depths.get i, c.colours.get i)

/-- The colour of a cell is that which it shows. -/
theorem colour?_eq_cell? : c.colour? x y = (c.cell? x y).map (·.2) := by
  rw [cell?, Option.map_map]
  rfl

/-- The depth of a cell is that of what it shows. -/
theorem depth?_eq_cell? : c.depth? x y = (c.cell? x y).bind (·.1) := by
  rw [cell?, Option.bind_map]
  rfl

/-- There is something to show exactly in the cells. -/
theorem isSome_cell? : (c.cell? x y).isSome = true ↔ c.extent.Contains x y := by
  rw [cell?, Option.isSome_map, Extent.isSome_index?]

/-- A canvas is determined by what it shows in its cells. -/
theorem ext_cell? (he : c.extent = c'.extent) (hb : c.background = c'.background)
    (h : ∀ x y, c.cell? x y = c'.cell? x y) : c = c' := by
  obtain ⟨e, b, colours, depths⟩ := c
  obtain ⟨e', b', colours', depths'⟩ := c'
  obtain rfl : e = e' := he
  obtain rfl : b = b' := hb
  have hcell : ∀ i : Fin (e.width * e.height),
      (depths.get i, colours.get i) = (depths'.get i, colours'.get i) := by
    intro i
    obtain ⟨x, y, hi⟩ := Extent.exists_index?_eq i
    simpa [cell?, hi] using h x y
  obtain rfl : colours = colours' := Vector.ext fun i hi => congrArg Prod.snd (hcell ⟨i, hi⟩)
  obtain rfl : depths = depths' := Vector.ext fun i hi => congrArg Prod.fst (hcell ⟨i, hi⟩)
  rfl

/-- In an empty canvas a cell has the background and no depth. -/
theorem cell?_blank {e : Extent} {b : Rgb} (h : e.Contains x y) :
    (blank e b : Canvas α).cell? x y = some (none, b) := by
  obtain ⟨i, hi⟩ := Option.isSome_iff_exists.1 (Extent.isSome_index?.2 h)
  rw [cell?, show (blank e b : Canvas α).extent.index? x y = some i from hi]
  exact congrArg some (Prod.ext (Vector.getElem_replicate i.isLt) (Vector.getElem_replicate i.isLt))

/-- Clearing leaves nothing of a canvas but its size and background. -/
theorem clear_eq_blank : c.clear = blank c.extent c.background := rfl

/-- In a canvas that has been cleared a cell has the background and no depth. -/
theorem cell?_clear (h : c.extent.Contains x y) : c.clear.cell? x y = some (none, c.background) :=
  cell?_blank h

variable [Scalar α] {f : Fragment α} {fs : List (Fragment α)}

/-- A fragment outside the canvas is not let in. -/
theorem plot_of_outside (h : c.extent.index? f.x f.y = none) : c.plot f = c := by
  rw [plot, h]

/-- A fragment behind what its cell holds is not let in. -/
theorem plot_of_behind {i} (h : c.extent.index? f.x f.y = some i)
    (hn : nearer (c.depths.get i) f.z = false) : c.plot f = c := by
  rw [plot, h]
  exact if_neg (Bool.eq_false_iff.1 hn)

/-- A fragment in front of what its cell holds takes the cell. -/
theorem plot_of_nearer {i} (h : c.extent.index? f.x f.y = some i)
    (hn : nearer (c.depths.get i) f.z = true) :
    c.plot f =
      { c with colours := c.colours.set i f.colour i.isLt
               depths := c.depths.set i (some f.z) i.isLt } := by
  rw [plot, h]
  exact if_pos hn

@[simp] theorem extent_plot : (c.plot f).extent = c.extent := by
  unfold plot
  split
  · rfl
  · split <;> rfl

@[simp] theorem background_plot : (c.plot f).background = c.background := by
  unfold plot
  split
  · rfl
  · split <;> rfl

@[simp] theorem extent_paint : (c.paint fs).extent = c.extent := by
  induction fs generalizing c with
  | nil => rfl
  | cons f fs ih => exact ih.trans extent_plot

@[simp] theorem background_paint : (c.paint fs).background = c.background := by
  induction fs generalizing c with
  | nil => rfl
  | cons f fs ih => exact ih.trans background_plot

/-- A fragment changes the cell on which it falls and no other. -/
theorem cell?_plot : (c.plot f).cell? x y =
    if f.isAt x y then (c.cell? x y).map (Fragment.enter · f) else c.cell? x y := by
  have hat : f.isAt x y = true ↔ f.x = x ∧ f.y = y := by simp [Fragment.isAt]
  cases hi : c.extent.index? f.x f.y with
  | none =>
    rw [plot_of_outside hi]
    split
    · next h =>
      obtain ⟨rfl, rfl⟩ := hat.1 h
      simp [cell?, hi]
    · rfl
  | some i =>
    cases hn : nearer (c.depths.get i) f.z with
    | false =>
      rw [plot_of_behind hi hn]
      split
      · next h =>
        obtain ⟨rfl, rfl⟩ := hat.1 h
        simp only [cell?, hi, Option.map_some, Fragment.enter, hn, Bool.false_eq_true, if_false]
      · rfl
    | true =>
      rw [plot_of_nearer hi hn]
      split
      · next h =>
        obtain ⟨rfl, rfl⟩ := hat.1 h
        simp only [cell?, hi, Option.map_some, Fragment.enter, hn, if_true]
        exact congrArg some (Prod.ext (Vector.getElem_set_self _) (Vector.getElem_set_self _))
      · next h =>
        cases hj : c.extent.index? x y with
        | none => simp only [cell?, hj, Option.map_none]
        | some j =>
          have hij : i.val ≠ j.val := by
            intro hij
            obtain rfl : i = j := Fin.ext hij
            exact h (hat.2 (Extent.index?_inj hi hj))
          simp only [cell?, hj, Option.map_some]
          exact congrArg some
            (Prod.ext (Vector.getElem_set_ne _ _ hij) (Vector.getElem_set_ne _ _ hij))

/-- What fragments make of a cell: those that fall on it take it in turn. -/
theorem cell?_paint : (c.paint fs).cell? x y =
    (c.cell? x y).map fun cell => (fs.filter (·.isAt x y)).foldl Fragment.enter cell := by
  induction fs generalizing c with
  | nil => simp [paint]
  | cons f fs ih =>
    show ((c.plot f).paint fs).cell? x y = _
    rw [ih, cell?_plot]
    by_cases hat : f.isAt x y <;> simp [hat, Function.comp_def]

/-- Painting adds and removes no cells. -/
theorem isSome_cell?_paint : ((c.paint fs).cell? x y).isSome = (c.cell? x y).isSome := by
  rw [cell?_paint, Option.isSome_map]

/-- Painting two lists is painting the one and then the other. -/
theorem paint_append {gs : List (Fragment α)} : c.paint (fs ++ gs) = (c.paint fs).paint gs :=
  List.foldl_append

end Canvas

end

/-! ## Calls that draw -/

/-- A call that draws: triangles that look like a surface, or segments in a colour, both given by
homogeneous points. -/
inductive DrawRequest (α : Type)
  | triangles (surface : Surface α) (points : List (Vec4 α))
  | segments (ink : Rgb.Parts) (points : List (Vec4 α))

section
variable {α : Type} [Scalar α]

/-- The drawing of a call on a canvas of the given size. -/
def DrawRequest.drawing (e : Extent) : DrawRequest α → Drawing α
  | .triangles surface points => drawTriangles e surface points
  | .segments ink points => drawInked e ink points

/-- The fragments that calls pass to a canvas of the given size, in drawing order. -/
def DrawRequest.allFragments (e : Extent) (rs : List (DrawRequest α)) : List (Fragment α) :=
  rs.flatMap fun r => (r.drawing e).fragments

/-- The canvas after some calls. -/
def Canvas.drawAll (c : Canvas α) (rs : List (DrawRequest α)) : Canvas α :=
  rs.foldl (fun c r => c.paint (r.drawing c.extent).fragments) c

/-- Calls paint their fragments in drawing order. -/
theorem Canvas.drawAll_eq_paint {c : Canvas α} {rs : List (DrawRequest α)} :
    c.drawAll rs = c.paint (DrawRequest.allFragments c.extent rs) := by
  induction rs generalizing c with
  | nil => rfl
  | cons r rs ih =>
    show (c.paint (r.drawing c.extent).fragments).drawAll rs = _
    rw [ih, extent_paint, ← paint_append]
    rfl

end

end SceneScript
