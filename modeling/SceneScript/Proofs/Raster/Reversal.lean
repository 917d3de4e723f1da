import SceneScript.Proofs.Raster.Clipping
import SceneScript.Proofs.Raster.Depth

/-!
# Segments drawn from either end

In exact arithmetic it does not matter from which of its ends a segment is drawn
(`Segment.drawn_either_way`). The cut of the reversed segment is the reversed cut
(`Segment.clip_swap`), and the parts into which stepping divides it have the same ends in reverse
order (`Segment.stepped_swap`), so the fragments come in reverse order and are otherwise the same.
On the canvas that makes no difference: they have one colour, and exact depths that tie are equal
(`Canvas.paint_perm`).
-/

namespace SceneScript

open Scalar (nearest)

/-! ## Exact depths -/

/-- Exact depths are determined by their ranks. -/
theorem depthRank_inj {d d' : Option ℚ} (h : depthRank d = depthRank d') : d = d' := by
  cases d with
  | none =>
    cases d' with
    | none => rfl
    | some w => exact absurd h WithBot.bot_ne_coe
  | some z =>
    cases d' with
    | none => exact absurd h WithBot.coe_ne_bot
    | some w => exact congrArg some (WithBot.coe_injective h)

namespace Canvas

variable {c : Canvas ℚ} {fs gs : List (Fragment ℚ)} {colour : Rgb}

/-- Every exact depth has a rank. -/
theorem ranked_exact (c : Canvas ℚ) : c.Ranked := fun _ _ _ _ z _ => ⟨z, rfl⟩

/-- Fragments of one colour may be painted in any order. -/
theorem paint_perm (hperm : fs.Perm gs) (hcolour : ∀ f ∈ fs, f.colour = colour) :
    c.paint fs = c.paint gs := by
  refine ext_cell? (by simp) (by simp) fun x y => ?_
  cases hb : c.cell? x y with
  | none => simp [cell?_paint, hb]
  | some before =>
    obtain ⟨after, ha, hfront⟩ := front_paint fs c.ranked_exact hb
    obtain ⟨after', ha', hfront'⟩ := front_paint gs c.ranked_exact hb
    have hfilter : (fs.filter (·.isAt x y)).Perm (gs.filter (·.isAt x y)) := hperm.filter _
    have hdepth : after.1 = after'.1 := depthRank_inj (hfront.rank_perm hfront' hfilter)
    have hsame : after.2 = after'.2 := by
      refine hfront.colour_perm hfront' hfilter fun f hf g hg _ _ => ?_
      rw [hcolour f (List.mem_filter.1 hf).1, hcolour g (List.mem_filter.1 hg).1]
    rw [ha, ha']
    exact congrArg some (Prod.ext hdepth hsame)

end Canvas

namespace Segment

variable {e : Extent} {colour : Rgb} {p q : Vec3 ℚ} {t : ℚ}

/-! ## Stepping back -/

/-- The way back has as many steps. -/
theorem steps_swap (p q : Vec3 ℚ) : steps q p = steps p q := by
  rw [steps_eq, steps_eq, abs_sub_comm (nearest p.x), abs_sub_comm (nearest p.y)]

/-- The same points are on the way back. -/
theorem fragmentAt_swap (colour : Rgb) (p q : Vec3 ℚ) (t : ℚ) :
    fragmentAt colour q p (1 - t) = fragmentAt colour p q t := by
  have hdef : ∀ p q : Vec3 ℚ, ∀ t, fragmentAt colour p q t =
      ⟨nearest (p.toward q t).x, nearest (p.toward q t).y, (p.toward q t).z, colour⟩ :=
    fun _ _ _ => rfl
  rw [hdef, hdef, ← Vec3.toward_symm]

/-- The nearer of two depths. -/
theorem larger_comm (a b : ℚ) : Scalar.larger a b = Scalar.larger b a := by
  have hmax : ∀ a b : ℚ, Scalar.larger a b = max a b := fun a b => (max_def_lt a b).symm
  rw [hmax, hmax, max_comm]

/-- Stepping back meets the same fragments in reverse order. -/
theorem stepped_swap (colour : Rgb) (p q : Vec3 ℚ) :
    stepped colour q p = (stepped colour p q).reverse := by
  obtain ⟨N, hsteps⟩ := exists_steps_eq p q
  have hback : steps q p = N := (steps_swap p q).trans hsteps
  rcases Nat.eq_zero_or_pos N with rfl | hN
  · obtain ⟨hx, hy⟩ := nearest_eq_of_steps_zero hsteps
    rw [stepped_of_steps_zero hsteps, stepped_of_steps_zero hback, hx, hy, larger_comm,
      List.reverse_singleton]
  · have hne : (N : ℚ) ≠ 0 := by exact_mod_cast hN.ne'
    rw [stepped_eq hN hsteps, stepped_eq hN hback]
    refine List.ext_getElem (by simp) fun i hi _ => ?_
    have hi : i ≤ N := by
      simp at hi
      omega
    rw [List.getElem_reverse, List.getElem_map, List.getElem_map, List.getElem_range,
      List.getElem_range, ← fragmentAt_swap colour p q]
    simp only [List.length_map, List.length_range, Nat.add_sub_cancel]
    -- the end of a part from the one side and from the other
    congr 1
    rw [Nat.cast_sub hi]
    field_simp
    ring

/-! ## Cutting from the other end -/

/-- A parameter is left of the reversed segment if the opposite one is left of the segment. -/
theorem contains_clip_swap (e : Extent) (p q : Vec3 ℚ) (t : ℚ) :
    (clip e q p).Contains t ↔ (clip e p q).Contains (1 - t) := by
  rw [contains_clip, contains_clip, Vec3.toward_symm (p := q)]
  refine and_congr_left fun _ => ?_
  constructor <;> rintro ⟨h₀, h₁⟩ <;> constructor <;> linarith

/-- Of the reversed segment something is left if it is of the segment. -/
theorem start_le_stop_swap (h : (clip e p q).start ≤ (clip e p q).stop) :
    (clip e q p).start ≤ (clip e q p).stop := by
  obtain ⟨t, ht⟩ := Clip.start_le_stop_iff.1 h
  refine Clip.start_le_stop_iff.2 ⟨1 - t, (contains_clip_swap e p q _).2 ?_⟩
  rwa [sub_sub_cancel]

/-- The cut of the reversed segment is the cut of the segment, reversed. -/
theorem clip_swap (h : (clip e p q).start ≤ (clip e p q).stop) :
    (clip e q p).start = 1 - (clip e p q).stop ∧ (clip e q p).stop = 1 - (clip e p q).start := by
  have hback := start_le_stop_swap h
  have hstart := (contains_clip_swap e p q _).1 ⟨le_rfl, hback⟩
  have hstop := (contains_clip_swap e p q _).1 ⟨hback, le_rfl⟩
  have hstart' := (contains_clip_swap e q p _).1 ⟨le_rfl, h⟩
  have hstop' := (contains_clip_swap e q p _).1 ⟨h, le_rfl⟩
  constructor <;> apply le_antisymm <;>
    linarith [hstart.2, hstop.1, hstart'.2, hstop'.1]

/-- A reversed segment has the same fragments in reverse order. -/
theorem fragments_swap (e : Extent) (colour : Rgb) (p q : Vec3 ℚ) :
    fragments e colour q p = (fragments e colour p q).reverse := by
  rcases le_or_gt (clip e p q).start (clip e p q).stop with h | h
  · obtain ⟨hstart, hstop⟩ := clip_swap h
    rw [fragments_eq h, fragments_eq (start_le_stop_swap h), ← stepped_swap, hstart, hstop,
      ← Vec3.toward_symm, ← Vec3.toward_symm]
  · have hback : (clip e q p).stop < (clip e q p).start :=
      not_le.1 fun hle => h.not_ge (start_le_stop_swap hle)
    rw [fragments_of_empty h, fragments_of_empty hback, List.reverse_nil]

/-- What is stepped along in a colour has that colour. -/
theorem colour_of_mem_stepped {f : Fragment ℚ} (hf : f ∈ stepped colour p q) :
    f.colour = colour := by
  obtain ⟨N, hsteps⟩ := exists_steps_eq p q
  rcases Nat.eq_zero_or_pos N with rfl | hN
  · rw [stepped_of_steps_zero hsteps, List.mem_singleton] at hf
    rw [hf]
  · rw [stepped_eq hN hsteps] at hf
    obtain ⟨i, -, rfl⟩ := List.mem_map.1 hf
    rfl

/-- What is drawn of a segment in a colour has that colour. -/
theorem colour_of_mem_fragments {f : Fragment ℚ} (hf : f ∈ fragments e colour p q) :
    f.colour = colour := by
  rcases le_or_gt (clip e p q).start (clip e p q).stop with h | h
  · rw [fragments_eq h] at hf
    exact colour_of_mem_stepped hf
  · rw [fragments_of_empty h] at hf
    exact absurd hf List.not_mem_nil

/-- The drawing of one segment is its fragments, if the parts of its colour are words. -/
theorem drawInked_pair (e : Extent) (ink : Rgb.Parts) (p q : Vec4 ℚ) : drawInked e ink [p, q] =
    match ink.ink with
    | .ok colour => ⟨fragments e colour p.point q.point, .ok 1⟩
    | .error fault => ⟨[], .error fault⟩ := by
  cases hink : ink.ink with
  | ok colour =>
    simp [drawInked, hink, drawSegments, stroke_eq, Drawing.cons, Drawing.empty, Except.map]
  | error fault => simp [drawInked, hink]

/-- A segment has no direction. In exact arithmetic, on a canvas of any size that shows anything, a
segment is drawn from the one end as from the other: both drawings leave the same canvas, all its
colours and depths, and end alike. The segment may be cut or not, and be a point. -/
theorem drawn_either_way (c : Canvas ℚ) (ink : Rgb.Parts) (p q : Vec4 ℚ) :
    c.paint (drawInked c.extent ink [p, q]).fragments =
      c.paint (drawInked c.extent ink [q, p]).fragments ∧
    (drawInked c.extent ink [p, q]).outcome = (drawInked c.extent ink [q, p]).outcome := by
  rw [drawInked_pair, drawInked_pair]
  cases ink.ink with
  | ok colour =>
    have hperm : (fragments c.extent colour p.point q.point).Perm
        (fragments c.extent colour q.point p.point) := by
      rw [fragments_swap c.extent colour p.point q.point]
      exact (List.reverse_perm _).symm
    exact ⟨Canvas.paint_perm hperm fun f hf => colour_of_mem_fragments hf, rfl⟩
  | error fault => exact ⟨rfl, rfl⟩

end Segment

end SceneScript
