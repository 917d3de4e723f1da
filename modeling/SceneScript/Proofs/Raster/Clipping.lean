import SceneScript.Proofs.Raster.Stepping

/-!
# Cutting a segment

A cut is a set of parameters of a segment (`Clip.Contains`), and each side of the canvas takes from
it exactly the parameters beyond that side (`Clip.contains_narrow`), an empty cut staying empty. So
a segment is cut to its points on the canvas and its margin (`Segment.contains_clip`), and what is
drawn of it is what stepping draws of the part between two of its points (`Segment.fragments_eq`).

It follows that no point is lost that rounds to a cell, and that the number of fragments is bounded
by the canvas (`Segment.clipping_exact`), and that a cut segment is stepped along cell by cell
(`Segment.stepping`).
-/

namespace SceneScript

open Scalar (nearest)

/-! ## The parameters of a part -/

/-- Whether a parameter belongs to a part of a segment. -/
def Clip.Contains (c : Clip ℚ) (t : ℚ) : Prop := c.start ≤ t ∧ t ≤ c.stop

section
variable {c : Clip ℚ} {t : ℚ}

/-- A part is there if it has a parameter. -/
theorem Clip.start_le_stop_iff : c.start ≤ c.stop ↔ ∃ t, c.Contains t :=
  ⟨fun h => ⟨c.start, le_rfl, h⟩, fun ⟨_, h₀, h₁⟩ => h₀.trans h₁⟩

/-- The parameters of a whole segment. -/
theorem Clip.contains_whole : (whole : Clip ℚ).Contains t ↔ 0 ≤ t ∧ t ≤ 1 := Iff.rfl

/-- A boundary takes from a part the parameters beyond it. -/
theorem Clip.contains_narrow (c : Clip ℚ) (p q t : ℚ) :
    (c.narrow p q).Contains t ↔ c.Contains t ∧ p * t ≤ q := by
  have hdef : c.narrow p q =
      if p = 0 then if q < 0 then ⟨1, 0⟩ else c
      else if p < 0 then if c.start < q / p then ⟨q / p, c.stop⟩ else c
      else if q / p < c.stop then ⟨c.start, q / p⟩ else c := by
    unfold narrow
    simp only [beq_iff_eq]
  unfold Contains
  rw [hdef]
  rcases lt_trichotomy p 0 with hp | rfl | hp
  · -- the boundary is a lower bound
    rw [if_neg hp.ne, if_pos hp, ← div_le_iff_of_neg' hp]
    split
    · next h => exact ⟨fun ⟨h₀, h₁⟩ => ⟨⟨h.le.trans h₀, h₁⟩, h₀⟩, fun ⟨⟨_, h₁⟩, h₀⟩ => ⟨h₀, h₁⟩⟩
    · next h => exact ⟨fun h' => ⟨h', (not_lt.1 h).trans h'.1⟩, And.left⟩
  · -- the segment runs along the boundary
    rw [if_pos rfl, zero_mul]
    split
    · next h =>
      exact ⟨fun ⟨h₀, h₁⟩ => absurd (h₀.trans h₁) (by norm_num), fun h' => absurd h'.2 h.not_ge⟩
    · next h => exact ⟨fun h' => ⟨h', not_lt.1 h⟩, And.left⟩
  · -- the boundary is an upper bound
    rw [if_neg hp.ne', if_neg hp.not_gt, mul_comm, ← le_div_iff₀ hp]
    split
    · next h => exact ⟨fun ⟨h₀, h₁⟩ => ⟨⟨h₀, h₁.trans h.le⟩, h₁⟩, fun ⟨⟨h₀, _⟩, h₁⟩ => ⟨h₀, h₁⟩⟩
    · next h => exact ⟨fun h' => ⟨h', h'.2.trans (not_lt.1 h)⟩, And.left⟩

end

/-! ## Points between two points -/

section
variable {p q : Vec3 ℚ} {r s t : ℚ}

theorem Vec3.toward_zero : p.toward q 0 = p := by
  simp [toward]

theorem Vec3.toward_one : p.toward q 1 = q := by
  simp [toward]

/-- A point between two points of a line is a point of the line. -/
theorem Vec3.toward_toward :
    (p.toward q s).toward (p.toward q t) r = p.toward q (s + r * (t - s)) := by
  unfold toward
  congr 1 <;> ring

end

/-- Whether a point is over the canvas or over its margin of one cell. -/
def Extent.WithMargin (e : Extent) (o : Vec3 ℚ) : Prop :=
  (-1 ≤ o.x ∧ o.x ≤ e.width) ∧ -1 ≤ o.y ∧ o.y ≤ e.height

namespace Extent

variable {e : Extent} {o p q : Vec3 ℚ} {t : ℚ}

/-- What rounds to a cell is over the canvas or over its margin. -/
theorem Contains.withMargin (h : e.Contains (nearest o.x) (nearest o.y)) : e.WithMargin o := by
  obtain ⟨hx, hxw, hy, hyh⟩ := h
  have hxw : nearest o.x ≤ (e.width - 1 : ℤ) := by omega
  have hyh : nearest o.y ≤ (e.height - 1 : ℤ) := by omega
  rw [le_nearest_iff] at hx hy
  rw [nearest_le_iff] at hxw hyh
  push_cast at hx hy hxw hyh
  refine ⟨⟨?_, ?_⟩, ?_, ?_⟩ <;> linarith

/-- What is between two points over the canvas and its margin is over them too. -/
theorem WithMargin.toward (hp : e.WithMargin p) (hq : e.WithMargin q) (h₀ : 0 ≤ t) (h₁ : t ≤ 1) :
    e.WithMargin (p.toward q t) := by
  obtain ⟨⟨hpx, hpw⟩, hpy, hph⟩ := hp
  obtain ⟨⟨hqx, hqw⟩, hqy, hqh⟩ := hq
  have h₂ : 0 ≤ 1 - t := by linarith
  unfold Vec3.toward
  refine ⟨⟨?_, ?_⟩, ?_, ?_⟩ <;> simp only <;> nlinarith

end Extent

namespace Segment

section
variable {e : Extent} {colour : Rgb} {p q : Vec3 ℚ} {t : ℚ}

/-- A segment is cut to its points over the canvas and its margin. -/
theorem contains_clip (e : Extent) (p q : Vec3 ℚ) (t : ℚ) : (clip e p q).Contains t ↔
    (0 ≤ t ∧ t ≤ 1) ∧ e.WithMargin (p.toward q t) := by
  have hdef : clip e p q = (((Clip.whole.narrow (-(q.x - p.x)) (p.x + 1)).narrow (q.x - p.x)
      ((e.width : ℤ) - p.x)).narrow (-(q.y - p.y)) (p.y + 1)).narrow (q.y - p.y)
      ((e.height : ℤ) - p.y) := rfl
  rw [hdef, Clip.contains_narrow, Clip.contains_narrow, Clip.contains_narrow, Clip.contains_narrow,
    Clip.contains_whole, Extent.WithMargin, Vec3.toward]
  simp only [Int.cast_natCast]
  constructor
  · rintro ⟨⟨⟨⟨ht, h₁⟩, h₂⟩, h₃⟩, h₄⟩
    refine ⟨ht, ⟨?_, ?_⟩, ?_, ?_⟩ <;> linarith
  · rintro ⟨ht, ⟨h₁, h₂⟩, h₃, h₄⟩
    refine ⟨⟨⟨⟨ht, ?_⟩, ?_⟩, ?_⟩, ?_⟩ <;> linarith

/-- The ends of a part of a segment are its points at the ends of the part. -/
theorem ends_eq {c : Clip ℚ} (h₀ : 0 ≤ c.start) (h₁ : c.stop ≤ 1) :
    ends p q c = (p.toward q c.start, p.toward q c.stop) := by
  unfold ends
  split
  · rfl
  · next h =>
    obtain ⟨hstart, hstop⟩ := not_or.1 h
    have hstart : c.start = 0 := le_antisymm (not_lt.1 hstart) h₀
    have hstop : c.stop = 1 := le_antisymm h₁ (not_lt.1 hstop)
    rw [hstart, hstop, Vec3.toward_zero, Vec3.toward_one]

/-- A part that is there starts after the segment and stops before it. -/
theorem clip_mem_unit (h : (clip e p q).start ≤ (clip e p q).stop) :
    0 ≤ (clip e p q).start ∧ (clip e p q).stop ≤ 1 :=
  ⟨((contains_clip e p q _).1 ⟨le_rfl, h⟩).1.1, ((contains_clip e p q _).1 ⟨h, le_rfl⟩).1.2⟩

/-- What is drawn of a segment is what stepping draws of the part that is left of it. -/
theorem fragments_eq (h : (clip e p q).start ≤ (clip e p q).stop) : fragments e colour p q =
    stepped colour (p.toward q (clip e p q).start) (p.toward q (clip e p q).stop) := by
  unfold fragments stroke
  rw [if_neg h.not_gt, ends_eq (clip_mem_unit h).1 (clip_mem_unit h).2]
  rfl

/-- Nothing is drawn of a segment that is not over the canvas or its margin. -/
theorem fragments_of_empty (h : (clip e p q).stop < (clip e p q).start) :
    fragments e colour p q = [] := by
  unfold fragments stroke
  rw [if_pos h]
  rfl

/-- The fragments of a segment are those of points of the part that is left of it. -/
theorem exists_of_mem_fragments {f : Fragment ℚ} (hf : f ∈ fragments e colour p q) :
    ∃ t, (clip e p q).Contains t ∧ f.x = nearest (p.toward q t).x ∧
      f.y = nearest (p.toward q t).y ∧ f.z = (p.toward q t).z := by
  rcases le_or_gt (clip e p q).start (clip e p q).stop with h | h
  · rw [fragments_eq h] at hf
    obtain ⟨r, h₀, h₁, hx, hy, hz⟩ := exists_of_mem_stepped hf
    have hpoint := Vec3.toward_toward (p := p) (q := q) (r := r) (s := (clip e p q).start)
      (t := (clip e p q).stop)
    refine ⟨(clip e p q).start + r * ((clip e p q).stop - (clip e p q).start),
      ⟨by nlinarith, by nlinarith⟩, ?_, ?_, ?_⟩
    · exact hx.trans (congrArg (fun o : Vec3 ℚ => nearest o.x) hpoint)
    · exact hy.trans (congrArg (fun o : Vec3 ℚ => nearest o.y) hpoint)
    · exact hz.trans (congrArg Vec3.z hpoint)
  · rw [fragments_of_empty h] at hf
    exact absurd hf List.not_mem_nil

/-- Over the canvas and its margin a segment has no more steps than the canvas with its margin has
columns or rows. -/
theorem steps_le (hp : e.WithMargin p) (hq : e.WithMargin q) :
    steps p q ≤ max e.width e.height + 1 := by
  have hbounds : ∀ {v : ℚ} {n : ℕ}, -1 ≤ v → v ≤ n → -1 ≤ nearest v ∧ nearest v ≤ n := by
    intro v n h₀ h₁
    constructor
    · exact le_nearest_iff.2 (by push_cast; linarith)
    · exact nearest_le_iff.2 (by push_cast; linarith)
  obtain ⟨⟨hpx, hpw⟩, hpy, hph⟩ := hp
  obtain ⟨⟨hqx, hqw⟩, hqy, hqh⟩ := hq
  obtain ⟨hpx, hpw⟩ := hbounds hpx hpw
  obtain ⟨hqx, hqw⟩ := hbounds hqx hqw
  obtain ⟨hpy, hph⟩ := hbounds hpy hph
  obtain ⟨hqy, hqh⟩ := hbounds hqy hqh
  rw [steps_eq]
  refine max_le ?_ ?_
  · have : |nearest q.x - nearest p.x| ≤ e.width + 1 := abs_le.2 ⟨by linarith, by linarith⟩
    omega
  · have : |nearest q.y - nearest p.y| ≤ e.height + 1 := abs_le.2 ⟨by linarith, by linarith⟩
    omega

/-- The cut of a segment is exact and bounds the work. What is left of the segment is its points
over the canvas and its margin: there is a part left exactly if there are such points, no point is
cut off that rounds to a cell of the canvas, and all that is rounded afterwards is a point between
the new ends and lies over the canvas and its margin. So there are at most two fragments more than
the canvas has columns or rows, however long the segment is. -/
theorem clipping_exact (e : Extent) (colour : Rgb) (p q : Vec3 ℚ) :
    ((clip e p q).start ≤ (clip e p q).stop ↔
      ∃ t, (0 ≤ t ∧ t ≤ 1) ∧ e.WithMargin (p.toward q t)) ∧
    (∀ t, (clip e p q).start ≤ t ∧ t ≤ (clip e p q).stop ↔
      (0 ≤ t ∧ t ≤ 1) ∧ e.WithMargin (p.toward q t)) ∧
    (∀ t, 0 ≤ t → t ≤ 1 → e.Contains (nearest (p.toward q t).x) (nearest (p.toward q t).y) →
      (clip e p q).start ≤ t ∧ t ≤ (clip e p q).stop) ∧
    (∀ P Q, ends p q (clip e p q) = (P, Q) → (clip e p q).start ≤ (clip e p q).stop →
      (∀ t, 0 ≤ t → t ≤ 1 → e.WithMargin (P.toward Q t)) ∧
      ∀ f ∈ fragments e colour p q, ∃ t, (0 ≤ t ∧ t ≤ 1) ∧
        f.x = nearest (P.toward Q t).x ∧ f.y = nearest (P.toward Q t).y) ∧
    (fragments e colour p q).length ≤ max e.width e.height + 2 := by
  have hclip := contains_clip e p q
  -- the ends of the part that is left
  have hends : (clip e p q).start ≤ (clip e p q).stop →
      e.WithMargin (p.toward q (clip e p q).start) ∧ e.WithMargin (p.toward q (clip e p q).stop) :=
    fun h => ⟨((hclip _).1 ⟨le_rfl, h⟩).2, ((hclip _).1 ⟨h, le_rfl⟩).2⟩
  refine ⟨?_, hclip, fun t h₀ h₁ h => (hclip t).2 ⟨⟨h₀, h₁⟩, h.withMargin⟩, ?_, ?_⟩
  · rw [Clip.start_le_stop_iff]
    exact exists_congr hclip
  · intro P Q hPQ h
    rw [ends_eq (clip_mem_unit h).1 (clip_mem_unit h).2] at hPQ
    obtain ⟨rfl, rfl⟩ := Prod.mk.inj hPQ
    refine ⟨fun t h₀ h₁ => (hends h).1.toward (hends h).2 h₀ h₁, fun f hf => ?_⟩
    rw [fragments_eq h] at hf
    obtain ⟨t, h₀, h₁, hx, hy, -⟩ := exists_of_mem_stepped hf
    exact ⟨t, ⟨h₀, h₁⟩, hx, hy⟩
  · rcases le_or_gt (clip e p q).start (clip e p q).stop with h | h
    · obtain ⟨N, hN⟩ := exists_steps_eq (p.toward q (clip e p q).start)
        (p.toward q (clip e p q).stop)
      have hle := steps_le (hends h).1 (hends h).2
      rw [fragments_eq h, length_stepped hN]
      omega
    · rw [fragments_of_empty h]
      exact Nat.zero_le _

/-- Stepping along a segment, in exact arithmetic. Let `P` and `Q` be its ends after the cut, and
let `N` be the distance of the rounded ends on the axis on which it is greater, at least one. There
are `N + 1` fragments. They lead from the cell of `P` to that of `Q`, on that axis by one with each
step, and on the other one way and by at most one. Each of them has the cell and the depth of one
point of the segment before the cut. -/
theorem stepping (e : Extent) (colour : Rgb) {p q P Q : Vec3 ℚ} {N : ℕ}
    (hleft : (clip e p q).start ≤ (clip e p q).stop) (hends : ends p q (clip e p q) = (P, Q))
    (hN : (N : ℤ) = max |nearest Q.x - nearest P.x| |nearest Q.y - nearest P.y|) (hpos : 1 ≤ N) :
    (fragments e colour p q).length = N + 1 ∧
    (fragments e colour p q).head?.map Fragment.cell = some (nearest P.x, nearest P.y) ∧
    (fragments e colour p q).getLast?.map Fragment.cell = some (nearest Q.x, nearest Q.y) ∧
    (|nearest Q.x - nearest P.x| = N →
      CountsFrom (nearest P.x) ((fragments e colour p q).map Fragment.x) ∧
      Drifts ((fragments e colour p q).map Fragment.y)) ∧
    (|nearest Q.y - nearest P.y| = N →
      CountsFrom (nearest P.y) ((fragments e colour p q).map Fragment.y) ∧
      Drifts ((fragments e colour p q).map Fragment.x)) ∧
    ∀ f ∈ fragments e colour p q, ∃ o, p.Between q o ∧
      f.x = nearest o.x ∧ f.y = nearest o.y ∧ f.z = o.z := by
  have hpoint : ∀ f ∈ fragments e colour p q, ∃ o, p.Between q o ∧
      f.x = nearest o.x ∧ f.y = nearest o.y ∧ f.z = o.z := by
    intro f hf
    obtain ⟨t, ht, hf⟩ := exists_of_mem_fragments hf
    obtain ⟨⟨h₀, h₁⟩, -⟩ := (contains_clip e p q t).1 ht
    exact ⟨_, ⟨t, h₀, h₁, rfl⟩, hf⟩
  have hstepped : fragments e colour p q = stepped colour P Q := by
    rw [ends_eq (clip_mem_unit hleft).1 (clip_mem_unit hleft).2] at hends
    obtain ⟨rfl, rfl⟩ := Prod.mk.inj hends
    exact fragments_eq hleft
  have hsteps : steps P Q = N := (steps_eq P Q).trans hN.symm
  have hN' : (N : ℚ) ≠ 0 := by exact_mod_cast (Nat.one_le_iff_ne_zero.1 hpos)
  have hx : |nearest Q.x - nearest P.x| ≤ N := (le_max_left _ _).trans_eq hN.symm
  have hy : |nearest Q.y - nearest P.y| ≤ N := (le_max_right _ _).trans_eq hN.symm
  refine ⟨?_, ?_, ?_, fun h => ?_, fun h => ?_, hpoint⟩ <;> rw [hstepped]
  · exact length_stepped hsteps
  · rw [stepped_eq hpos hsteps, List.head?_map, List.head?_range, if_neg N.succ_ne_zero]
    simp [Fragment.cell, fragmentAt_eq, cellAlong_zero]
  · rw [stepped_eq hpos hsteps, List.getLast?_map, List.getLast?_range, if_neg N.succ_ne_zero]
    simp [Fragment.cell, fragmentAt_eq, hN', cellAlong_one]
  · rw [map_x_stepped hpos hsteps, map_y_stepped hpos hsteps]
    exact ⟨countsFrom_parts hpos h, drifts_parts hpos hy⟩
  · rw [map_x_stepped hpos hsteps, map_y_stepped hpos hsteps]
    exact ⟨countsFrom_parts hpos h, drifts_parts hpos hx⟩

/-- A segment that is cut on the left of a canvas of four columns and three rows and above it. The
part from `(-1, 1)` to `(3, 3)` is left. Its five fragments are in one column each, from the left to
the right. -/
theorem stepping_cutTwice :
    clip (α := ℚ) ⟨4, 3⟩ ⟨-3, 0, 0⟩ ⟨5, 4, 8⟩ = ⟨1 / 4, 3 / 4⟩ ∧
    (fragments (α := ℚ) ⟨4, 3⟩ .black ⟨-3, 0, 0⟩ ⟨5, 4, 8⟩).length = 5 ∧
    (fragments (α := ℚ) ⟨4, 3⟩ .black ⟨-3, 0, 0⟩ ⟨5, 4, 8⟩).head?.map Fragment.cell =
      some (-1, 1) ∧
    (fragments (α := ℚ) ⟨4, 3⟩ .black ⟨-3, 0, 0⟩ ⟨5, 4, 8⟩).getLast?.map Fragment.cell =
      some (3, 3) ∧
    CountsFrom (-1) ((fragments (α := ℚ) ⟨4, 3⟩ .black ⟨-3, 0, 0⟩ ⟨5, 4, 8⟩).map Fragment.x) ∧
    Drifts ((fragments (α := ℚ) ⟨4, 3⟩ .black ⟨-3, 0, 0⟩ ⟨5, 4, 8⟩).map Fragment.y) := by
  have hclip : clip (α := ℚ) ⟨4, 3⟩ ⟨-3, 0, 0⟩ ⟨5, 4, 8⟩ = ⟨1 / 4, 3 / 4⟩ := by decide +kernel
  have hleft : (clip (α := ℚ) ⟨4, 3⟩ ⟨-3, 0, 0⟩ ⟨5, 4, 8⟩).start ≤
      (clip (α := ℚ) ⟨4, 3⟩ ⟨-3, 0, 0⟩ ⟨5, 4, 8⟩).stop := by
    rw [hclip]
    norm_num
  have hends : ends (α := ℚ) ⟨-3, 0, 0⟩ ⟨5, 4, 8⟩ (clip ⟨4, 3⟩ ⟨-3, 0, 0⟩ ⟨5, 4, 8⟩) =
      (⟨-1, 1, 2⟩, ⟨3, 3, 6⟩) := by decide +kernel
  have hone : nearest (1 : ℚ) = 1 := by decide +kernel
  have hthree : nearest (3 : ℚ) = 3 := by decide +kernel
  have hmargin : nearest (-1 : ℚ) = -1 := by decide +kernel
  obtain ⟨hlength, hfirst, hlast, hcolumns, -, -⟩ := stepping ⟨4, 3⟩ .black (N := 4) hleft hends
    (by rw [hone, hthree, hmargin]; decide) (by decide)
  rw [hone, hmargin] at hfirst
  rw [hthree] at hlast
  rw [hthree, hmargin] at hcolumns
  exact ⟨hclip, hlength, hfirst, hlast, hcolumns (by decide)⟩

end

end Segment

end SceneScript
