import SceneScript.Proofs.Binary64.Packing
import SceneScript.Proofs.Raster.Coverage
import SceneScript.Word

/-!
# The numbers that become rows and columns

Filling a triangle counts the rows that it reaches on the canvas and, in each row, the columns
(`Triangle.cells_eq`). The bounds of both are computed as numbers and then turned into cells
(`Triangle.converted`). A first row or column is held to the canvas from below only, and a last one
from above only. So a first one is as far away as the triangle is, if the triangle lies wholly above
the canvas, or wholly to the right of it in a row, and likewise a last one on the other side. All
the numbers are words exactly if the triangle has a point on the near side of either end of the
words, and one in each row (`Triangle.inWords_converted_iff`); far triangles do not
(`Triangle.conversion_overflows`).
-/

namespace SceneScript

/-- Whether a number is in the range of words. -/
def InWords (v : ℚ) : Prop := (leastWord : ℚ) ≤ v ∧ v ≤ (greatestWord : ℚ)

instance (v : ℚ) : Decidable (InWords v) := inferInstanceAs (Decidable (_ ∧ _))

/-- Whether a number is that of a finite double. -/
def IsDouble (v : ℚ) : Prop := ∃ x : Float, (Binary64.ofFloat x).value? = some v

section
variable {lo hi : ℚ} {n : ℕ}

/-- A first cell is a word unless it is too far up. -/
theorem inWords_firstCell : InWords (firstCell lo) ↔ lo ≤ (greatestWord : ℚ) := by
  rw [InWords, firstCell_eq, Int.cast_le, Int.cast_le, max_le_iff, Rat.ceil_le_iff]
  have hleast : leastWord ≤ max lo.ceil 0 := (by decide : leastWord ≤ 0).trans (le_max_right _ _)
  have hzero : (0 : Int) ≤ greatestWord := by decide
  exact ⟨fun h => h.2.1, fun h => ⟨hleast, h, hzero⟩⟩

/-- On a line that is not longer than the words, a last cell is a word unless it is too far down. -/
theorem inWords_lastCell (hn : n ≤ 2 ^ 31) : InWords (lastCell hi n) ↔ (leastWord : ℚ) ≤ hi := by
  rw [InWords, lastCell_eq, Int.cast_le, Int.cast_le, le_min_iff, Rat.le_floor_iff]
  have hlast : leastWord ≤ (n : Int) - 1 ∧ (n : Int) - 1 ≤ greatestWord := by
    unfold leastWord greatestWord
    omega
  exact ⟨fun h => h.1.1, fun h => ⟨⟨h, hlast.1⟩, (min_le_right _ _).trans hlast.2⟩⟩

/-- There are no more cells between two numbers than on the line. -/
theorem length_cellsBetween_le : (cellsBetween lo hi n).length ≤ n := by
  rw [cellsBetween_eq]
  show ((List.range (min hi.floor (n - 1) + 1 - max lo.ceil 0).toNat).map _).length ≤ n
  rw [List.length_map, List.length_range]
  omega

end

/-- What is between two points is not further to a side than both. -/
theorem Vec3.Between.x_bounds {p q o : Vec3 ℚ} (h : p.Between q o) :
    min p.x q.x ≤ o.x ∧ o.x ≤ max p.x q.x := by
  obtain ⟨t, h₀, h₁, rfl⟩ := h
  unfold toward
  rcases le_total p.x q.x with h | h
  · rw [min_eq_left h, max_eq_right h]
    constructor <;> nlinarith
  · rw [min_eq_right h, max_eq_left h]
    constructor <;> nlinarith

namespace Triangle

section
variable {e : Extent} {colour : Rgb} {a b c low mid high : Vec3 ℚ} {row : Int} {B : ℚ}

/-- A corner belongs to its triangle. -/
theorem contains_corner : Contains a b c a :=
  ⟨1, 0, 0, zero_le_one, le_rfl, le_rfl, by norm_num, by simp⟩

/-- The ends of a triangle in a row are those of the long edge and the short ones, in order. -/
theorem rowEnds_eq (hsort : byHeight a b c = (low, mid, high)) : rowEnds a b c row =
    (min (edgeAt low high (row : ℚ)).1 (shortEdgesAt low mid high (row : ℚ)).1,
      max (edgeAt low high (row : ℚ)).1 (shortEdgesAt low mid high (row : ℚ)).1) := by
  unfold rowEnds
  rw [hsort]
  dsimp only
  split
  · next h => rw [min_eq_right h.le, max_eq_left h.le]
  · next h => rw [min_eq_left (not_lt.1 h), max_eq_right (not_lt.1 h)]

/-- Filling a triangle visits its rows and in each row its columns. -/
theorem cells_eq (e : Extent) (colour : Rgb) (a b c : Vec3 ℚ) : cells e colour a b c =
    (rows e a b c).flatMap fun row => (columns e a b c row).map fun column => (column, row) := by
  rw [cells, fragments_eq_flatMap]
  unfold rows columns
  split
  next low mid high hsort =>
  simp only [rowEnds_eq hsort]
  split
  · rfl
  · rw [List.map_flatMap]
    simp only [map_cell_span]

/-- The rows of a triangle lie between its lowest corner and its highest. -/
theorem mem_rows (hsort : byHeight a b c = (low, mid, high)) (h : row ∈ rows e a b c) :
    low.y ≤ row ∧ (row : ℚ) ≤ high.y := by
  unfold rows at h
  rw [hsort] at h
  simp only at h
  split at h
  · exact absurd h List.not_mem_nil
  · exact (mem_cellsBetween.1 h).1

/-- The points of a triangle at the height of a row lie between the ends of the row, which are two
of them. -/
theorem rowEnds_spec (hsort : byHeight a b c = (low, mid, high)) (hmid : mid.y ≤ high.y)
    (hheight : low.y < high.y) (hlow : low.y ≤ row) (hhigh : (row : ℚ) ≤ high.y) :
    (∃ o, Contains low mid high o ∧ o.y = row ∧ o.x = (rowEnds a b c row).1) ∧
    (∃ o, Contains low mid high o ∧ o.y = row ∧ o.x = (rowEnds a b c row).2) ∧
    ∀ o, Contains low mid high o → o.y = row →
      (rowEnds a b c row).1 ≤ o.x ∧ o.x ≤ (rowEnds a b c row).2 := by
  obtain ⟨h₀, h₁⟩ := Vec3.div_mem_unit hheight hlow hhigh
  have hlong : Contains low mid high (low.atHeight high row) := (contains_toward h₀ h₁).swap
  have hylong : (low.atHeight high row).y = row := Vec3.y_atHeight hheight
  obtain ⟨hshort, hyshort⟩ := shortPoint_spec mid hlow hhigh
  have hends : rowEnds a b c row =
      (min (low.atHeight high row).x (shortPoint low mid high row).x,
        max (low.atHeight high row).x (shortPoint low mid high row).x) := by
    simp only [rowEnds_eq hsort, edgeAt_eq, shortEdgesAt_eq]
  rw [hends]
  refine ⟨?_, ?_, fun o ho hy => ?_⟩
  · rcases min_choice (low.atHeight high row).x (shortPoint low mid high row).x with h | h
    · exact ⟨_, hlong, hylong, h.symm⟩
    · exact ⟨_, hshort, hyshort, h.symm⟩
  · rcases max_choice (low.atHeight high row).x (shortPoint low mid high row).x with h | h
    · exact ⟨_, hlong, hylong, h.symm⟩
    · exact ⟨_, hshort, hyshort, h.symm⟩
  · rw [← hy] at hlow hhigh
    have hbetween := (contains_iff_between hmid hheight hlow hhigh).1 ho
    rw [hy] at hbetween
    exact hbetween.x_bounds

/-- A number that filling a triangle turns into a cell is a bound of the rows or, in a row that is
visited, of the columns. -/
theorem forall_converted_iff {P : ℚ → Prop} (hsort : byHeight a b c = (low, mid, high))
    (hheight : low.y < high.y) : (∀ v ∈ converted e a b c, P v) ↔
      (P (firstCell low.y) ∧ P (lastCell high.y e.height)) ∧ ∀ row ∈ rows e a b c,
        P (firstCell (rowEnds a b c row).1) ∧ P (lastCell (rowEnds a b c row).2 e.width) := by
  have hdef : converted e a b c =
      [firstCell low.y, lastCell high.y e.height] ++ (rows e a b c).flatMap fun row =>
        [firstCell (rowEnds a b c row).1, lastCell (rowEnds a b c row).2 e.width] := by
    unfold converted
    rw [hsort]
    exact if_neg fun h => hheight.ne' (eq_of_beq h)
  rw [hdef]
  simp only [List.mem_append, List.mem_cons, List.not_mem_nil, or_false, List.mem_flatMap]
  constructor
  · intro h
    exact ⟨⟨h _ (.inl (.inl rfl)), h _ (.inl (.inr rfl))⟩, fun row hrow =>
      ⟨h _ (.inr ⟨row, hrow, .inl rfl⟩), h _ (.inr ⟨row, hrow, .inr rfl⟩)⟩⟩
  · rintro ⟨⟨hfirst, hlast⟩, hrows⟩ v ((rfl | rfl) | ⟨row, hrow, rfl | rfl⟩)
    · exact hfirst
    · exact hlast
    · exact (hrows row hrow).1
    · exact (hrows row hrow).2

/-- The corners in the order of their heights, of a triangle that is not level. -/
theorem exists_byHeight_eq (hlevel : ¬ (a.y = b.y ∧ b.y = c.y)) :
    ∃ low mid high, byHeight a b c = (low, mid, high) ∧ (low.y ≤ mid.y ∧ mid.y ≤ high.y) ∧
      low.y < high.y ∧ ∀ o, Contains low mid high o ↔ Contains a b c o := by
  obtain ⟨low, mid, high, hsort, ⟨hlow, hmid⟩, hcontains, -⟩ := byHeight_spec a b c
  refine ⟨low, mid, high, hsort, ⟨hlow, hmid⟩, ?_, hcontains⟩
  by_contra hle
  have hbounds : ∀ {o}, Contains a b c o → low.y ≤ o.y ∧ o.y ≤ high.y := fun ho =>
    ((hcontains _).2 ho).y_bounds hlow hmid
  obtain ⟨ha, ha'⟩ := hbounds contains_corner
  obtain ⟨hb, hb'⟩ := hbounds contains_corner.rotate.rotate
  obtain ⟨hc, hc'⟩ := hbounds contains_corner.rotate
  exact hlevel ⟨by linarith, by linarith⟩

/-- The numbers that filling a triangle turns into cells are words exactly if the triangle is not
wholly beyond an end of the words, neither as a whole on the vertical axis nor, in a row that is
visited, on the horizontal one. -/
theorem inWords_converted_iff (hlevel : ¬ (a.y = b.y ∧ b.y = c.y)) (hwidth : e.width ≤ 2 ^ 31)
    (hlines : e.height ≤ 2 ^ 31) : (∀ v ∈ converted e a b c, InWords v) ↔
      ((∃ o, Contains a b c o ∧ o.y ≤ (greatestWord : ℚ)) ∧
        ∃ o, Contains a b c o ∧ (leastWord : ℚ) ≤ o.y) ∧
      ∀ row ∈ rows e a b c,
        (∃ o, Contains a b c o ∧ o.y = row ∧ o.x ≤ (greatestWord : ℚ)) ∧
        ∃ o, Contains a b c o ∧ o.y = row ∧ (leastWord : ℚ) ≤ o.x := by
  obtain ⟨low, mid, high, hsort, ⟨hlow, hmid⟩, hheight, hcontains⟩ := exists_byHeight_eq hlevel
  simp only [forall_converted_iff hsort hheight, inWords_firstCell, inWords_lastCell hwidth,
    inWords_lastCell hlines, ← hcontains]
  refine and_congr (and_congr ?_ ?_) (forall₂_congr fun row hrow => ?_)
  · exact ⟨fun h => ⟨low, contains_corner, h⟩,
      fun ⟨o, ho, h⟩ => (ho.y_bounds hlow hmid).1.trans h⟩
  · exact ⟨fun h => ⟨high, contains_corner.rotate, h⟩,
      fun ⟨o, ho, h⟩ => h.trans (ho.y_bounds hlow hmid).2⟩
  · obtain ⟨hl, hh⟩ := mem_rows hsort hrow
    obtain ⟨⟨l, hl, hly, hlx⟩, ⟨r, hr, hry, hrx⟩, hends⟩ := rowEnds_spec hsort hmid hheight hl hh
    refine and_congr ⟨fun h => ⟨l, hl, hly, hlx.trans_le h⟩, fun ⟨o, ho, hy, h⟩ => ?_⟩
      ⟨fun h => ⟨r, hr, hry, h.trans_eq hrx.symm⟩, fun ⟨o, ho, hy, h⟩ => ?_⟩
    · exact (hends o ho hy).1.trans h
    · exact h.trans (hends o ho hy).2

/-- In each row that is visited there is a point of the triangle. -/
theorem exists_contains_of_mem_rows (hlevel : ¬ (a.y = b.y ∧ b.y = c.y))
    (hrow : row ∈ rows e a b c) : ∃ o, Contains a b c o ∧ o.y = row := by
  obtain ⟨low, mid, high, hsort, ⟨-, hmid⟩, hheight, hcontains⟩ := exists_byHeight_eq hlevel
  obtain ⟨hl, hh⟩ := mem_rows hsort hrow
  obtain ⟨⟨o, ho, hy, -⟩, -⟩ := rowEnds_spec hsort hmid hheight hl hh
  exact ⟨o, (hcontains o).1 ho, hy⟩

/-- The points of a triangle with its corners in the range of the words are in it. -/
theorem Contains.inWords {o : Vec3 ℚ} (ho : Contains a b c o)
    (hcorners : ∀ p ∈ [a, b, c], InWords p.x ∧ InWords p.y) : InWords o.x ∧ InWords o.y := by
  simp only [List.forall_mem_cons] at hcorners
  obtain ⟨⟨hax, hay⟩, ⟨hbx, hby⟩, ⟨hcx, hcy⟩, -⟩ := hcorners
  obtain ⟨u, v, w, hu, hv, hw, hsum, rfl⟩ := ho
  exact ⟨mean_bounds hu hv hw hsum hax hbx hcx, mean_bounds hu hv hw hsum hay hby hcy⟩

/-- What filling a triangle turns into cells, on a canvas of a size that a word can count. The
numbers are words exactly if the triangle is not wholly beyond an end of the words, neither as a
whole on the vertical axis nor, in a row that is visited, on the horizontal one; so they are if the
corners are in the range of the words. The rows and columns that are visited in exact arithmetic are
no more than those of the canvas. -/
theorem conversion_bounds (e : Extent) (colour : Rgb) {a b c : Vec3 ℚ}
    (hlevel : ¬ (a.y = b.y ∧ b.y = c.y)) (hwidth : e.width ≤ 2 ^ 31)
    (hlines : e.height ≤ 2 ^ 31) :
    ((∀ v ∈ converted e a b c, InWords v) ↔
      ((∃ o, Contains a b c o ∧ o.y ≤ (greatestWord : ℚ)) ∧
        ∃ o, Contains a b c o ∧ (leastWord : ℚ) ≤ o.y) ∧
      ∀ row ∈ rows e a b c,
        (∃ o, Contains a b c o ∧ o.y = row ∧ o.x ≤ (greatestWord : ℚ)) ∧
        ∃ o, Contains a b c o ∧ o.y = row ∧ (leastWord : ℚ) ≤ o.x) ∧
    ((∀ p ∈ [a, b, c], InWords p.x ∧ InWords p.y) → ∀ v ∈ converted e a b c, InWords v) ∧
    cells e colour a b c = (rows e a b c).flatMap (fun row =>
      (columns e a b c row).map fun column => (column, row)) ∧
    (rows e a b c).length ≤ e.height ∧
    ∀ row ∈ rows e a b c, (columns e a b c row).length ≤ e.width := by
  have hiff := inWords_converted_iff hlevel hwidth hlines
  refine ⟨hiff, fun hcorners => hiff.2 ⟨?_, fun row hrow => ?_⟩, cells_eq e colour a b c, ?_,
    fun row _ => length_cellsBetween_le⟩
  · have ha := contains_corner.inWords hcorners
    exact ⟨⟨a, contains_corner, ha.2.2⟩, a, contains_corner, ha.2.1⟩
  · obtain ⟨o, ho, hy⟩ := exists_contains_of_mem_rows hlevel hrow
    have hx := (ho.inWords hcorners).1
    exact ⟨⟨o, ho, hy, hx.2⟩, o, ho, hy, hx.1⟩
  · unfold rows
    split
    split
    · exact Nat.zero_le _
    · exact length_cellsBetween_le

end

/-- A triangle from a corner of the canvas to far on the right and far up. Two of its corners are
beyond the words, and all that is turned into cells is a word. -/
theorem conversion_bounds_wide :
    ¬ InWords (2 ^ 70) ∧ rows (α := ℚ) ⟨4, 3⟩ ⟨0, 0, 0⟩ ⟨2 ^ 70, 0, 0⟩ ⟨0, 2 ^ 70, 0⟩ = [0, 1, 2] ∧
    (∀ v ∈ converted (α := ℚ) ⟨4, 3⟩ ⟨0, 0, 0⟩ ⟨2 ^ 70, 0, 0⟩ ⟨0, 2 ^ 70, 0⟩, InWords v) ∧
    ∀ row ∈ rows (α := ℚ) ⟨4, 3⟩ ⟨0, 0, 0⟩ ⟨2 ^ 70, 0, 0⟩ ⟨0, 2 ^ 70, 0⟩,
      (columns (α := ℚ) ⟨4, 3⟩ ⟨0, 0, 0⟩ ⟨2 ^ 70, 0, 0⟩ ⟨0, 2 ^ 70, 0⟩ row).length ≤ 4 := by
  have hrows : rows (α := ℚ) ⟨4, 3⟩ ⟨0, 0, 0⟩ ⟨2 ^ 70, 0, 0⟩ ⟨0, 2 ^ 70, 0⟩ = [0, 1, 2] := by
    decide +kernel
  obtain ⟨hiff, -, -, -, hcolumns⟩ := conversion_bounds ⟨4, 3⟩ .black (a := ⟨0, 0, 0⟩)
    (b := ⟨2 ^ 70, 0, 0⟩) (c := ⟨0, 2 ^ 70, 0⟩) (by norm_num) (by norm_num) (by norm_num)
  refine ⟨by decide +kernel, hrows, hiff.2 ⟨⟨?_, ?_⟩, fun row hrow => ?_⟩, hcolumns⟩
  · exact ⟨⟨0, 0, 0⟩, contains_corner, by norm_num [greatestWord]⟩
  · exact ⟨⟨0, 0, 0⟩, contains_corner, by norm_num [leastWord]⟩
  · -- the point of the row on the left side
    have hleft : Contains ⟨0, 0, 0⟩ ⟨2 ^ 70, 0, 0⟩ ⟨0, 2 ^ 70, 0⟩ ⟨0, row, 0⟩ := by
      rw [hrows] at hrow
      have hbounds : 0 ≤ row ∧ row ≤ 2 := by
        simp only [List.mem_cons, List.not_mem_nil, or_false] at hrow
        omega
      have hlow : (0 : ℚ) ≤ row := by exact_mod_cast hbounds.1
      have hhigh : (row : ℚ) ≤ 2 := by exact_mod_cast hbounds.2
      exact ⟨1 - row / 2 ^ 70, 0, row / 2 ^ 70, by linarith, le_rfl, by positivity, by ring,
        by norm_num⟩
    exact ⟨⟨_, hleft, rfl, by norm_num [greatestWord]⟩, _, hleft, rfl, by norm_num [leastWord]⟩

/-- A triangle with finite doubles as coordinates that goes far to the left in the row `0` and far
to the right above it. In the row `1` it is wholly to the right of the canvas, and the first column
is no word. In the row `0` it covers two cells, but in doubles, where the way from the far left
corner to the far right one is infinite, its left end is undefined, and the filling stops there. -/
theorem conversion_overflows :
    (∀ v ∈ ([1, 0, 2 ^ 1023, 5 / 4, -2 ^ 1023] : List ℚ), IsDouble v) ∧
    1 ∈ rows (α := ℚ) ⟨4, 3⟩ ⟨1, 0, 0⟩ ⟨2 ^ 1023, 5 / 4, 0⟩ ⟨-2 ^ 1023, 0, 0⟩ ∧
    ¬ InWords (firstCell (rowEnds (α := ℚ) ⟨1, 0, 0⟩ ⟨2 ^ 1023, 5 / 4, 0⟩ ⟨-2 ^ 1023, 0, 0⟩ 1).1) ∧
    cells ⟨4, 3⟩ .black ⟨1, 0, 0⟩ ⟨2 ^ 1023, 5 / 4, 0⟩ ⟨-2 ^ 1023, 0, 0⟩ = [(0, 0), (1, 0)] ∧
    (stroke (α := Float) ⟨4, 3⟩ .black ⟨1, 0, 0⟩ ⟨8.98846567431158e307, 1.25, 0⟩
      ⟨-8.98846567431158e307, 0, 0⟩).fault?.map Fault.message =
        some "cannot convert float NaN to integer" := by
  refine ⟨?_, by decide +kernel, by decide +kernel, by decide +kernel, by decide +kernel⟩
  simp only [List.forall_mem_cons]
  refine ⟨⟨1, ?_⟩, ⟨0, ?_⟩, ⟨8.98846567431158e307, ?_⟩, ⟨1.25, ?_⟩, ⟨-8.98846567431158e307, ?_⟩,
    fun _ h => absurd h List.not_mem_nil⟩ <;> decide +kernel

end Triangle

end SceneScript
