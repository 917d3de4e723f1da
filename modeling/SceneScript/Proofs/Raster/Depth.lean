import Mathlib
import SceneScript.Proofs.Binary64.Order
import SceneScript.Proofs.Raster.Cells

/-!
# Visibility by the depth buffer

A cell keeps the first of the nearest fragments that fall on it. The proof needs of depths only that
their comparisons are those of ranks in a linear order with a bottom, at which an empty cell lies
(`DepthRank`); exact numbers and doubles are both so. `Front` is the running maximum: what a cell
holds after a list of fragments, against what it held before. It holds of every list
(`front_foldl_enter`), and determines the rank of what the cell holds whatever the order of the list
is (`Front.rank_perm`), and its colour if no two colours tie (`Front.colour_perm`).

`depth_buffer_visibility` states this of doubles, for any sequence of calls on any canvas without
undefined depths.
-/

namespace SceneScript

/-- Depths are compared by their ranks in a linear order. A depth without a rank is nearer than
none, and the empty background has the least rank. -/
class DepthRank (α : Type) [Scalar α] (ρ : outParam Type) [LinearOrder ρ] [OrderBot ρ] where
  rank? : α → Option ρ
  lt_iff : ∀ {a b : α}, a < b ↔ ∃ i j, rank? a = some i ∧ rank? b = some j ∧ i < j
  isDepth_iff : ∀ {a : α}, Scalar.isDepth a = true ↔ ∃ i, rank? a = some i ∧ ⊥ < i

/-- Exact numbers are their own ranks. -/
instance : DepthRank Rat (WithBot ℚ) where
  rank? q := some q
  lt_iff := by
    intro a b
    show a < b ↔ _
    simp
  isDepth_iff := by
    intro a
    show true = true ↔ _
    simp

/-- Doubles are ranked as they are compared. -/
instance : DepthRank Float Binary64.Rank where
  rank? := Binary64.rank?
  lt_iff := Binary64.lt_iff_rank
  isDepth_iff := by
    intro a
    rw [show Scalar.isDepth a = decide ((-1.0 / 0.0 : Float) < a) from rfl, decide_eq_true_iff,
      Binary64.lt_iff_rank]
    simp

section
variable {α ρ : Type} [Scalar α] [LinearOrder ρ] [OrderBot ρ] [DepthRank α ρ]

/-- The rank of what a cell holds, at the bottom if it is empty. -/
def depthRank (d : Option α) : ρ := (d.bind DepthRank.rank?).getD ⊥

/-- What a cell holds has a rank, if it holds anything. -/
def IsRanked (d : Option α) : Prop := ∀ z, d = some z → ∃ i : ρ, DepthRank.rank? z = some i

/-- A fragment is nearer than a cell when its rank is above the cell's. -/
theorem nearer_iff {d : Option α} (hd : IsRanked d) {z : α} :
    Canvas.nearer d z = true ↔ ∃ j : ρ, DepthRank.rank? z = some j ∧ depthRank d < j := by
  cases d with
  | none => exact DepthRank.isDepth_iff
  | some w =>
    obtain ⟨i, hi⟩ := hd w rfl
    simp [Canvas.nearer, DepthRank.lt_iff, depthRank, hi]

/-- What a cell holds after a list of fragments fell on it, against what it held before: its rank is
at least that before and that of each fragment; and either it is as before, or it has grown and is
the first of the fragments with its rank. -/
structure Front (fs : List (Fragment α)) (before after : Option α × Rgb) : Prop where
  ranked : IsRanked after.1
  mono : depthRank before.1 ≤ depthRank after.1
  max : ∀ f ∈ fs, ∀ i : ρ, DepthRank.rank? f.z = some i → i ≤ depthRank after.1
  first : after = before ∨ depthRank before.1 < depthRank after.1 ∧
    ∃ f, fs.find? (fun f => DepthRank.rank? f.z = some (depthRank after.1)) = some f ∧
      after = (some f.z, f.colour)

section
variable {f : Fragment α} {fs gs : List (Fragment α)} {before after after' : Option α × Rgb}

/-- A fragment that takes the cell comes in front of what the rest of the list makes of it. -/
theorem Front.cons_taken {j : ρ} (hj : DepthRank.rank? f.z = some j)
    (hlt : depthRank before.1 < j) (h : Front fs (some f.z, f.colour) after) :
    Front (f :: fs) before after := by
  have hrank : depthRank (some f.z) = j := by simp [depthRank, hj]
  have hjle : j ≤ depthRank after.1 := hrank ▸ h.mono
  refine ⟨h.ranked, hlt.le.trans hjle, ?_, .inr ⟨hlt.trans_le hjle, ?_⟩⟩
  · intro g hg i hi
    rcases List.mem_cons.1 hg with rfl | hg
    · rw [hj] at hi
      cases hi
      exact hjle
    · exact h.max g hg i hi
  · rcases h.first with rfl | ⟨hgrow, g, hg, heq⟩
    · exact ⟨f, List.find?_cons_of_pos (by simp [hrank, hj]), rfl⟩
    · have hne : ¬ DepthRank.rank? f.z = some (depthRank after.1) := by
        rw [hj, Option.some.injEq]
        exact (hrank ▸ hgrow).ne
      exact ⟨g, by rw [List.find?_cons_of_neg (by simpa using hne), hg], heq⟩

/-- A fragment that is not above the cell leaves it to the rest of the list. -/
theorem Front.cons_kept
    (hle : ∀ i : ρ, DepthRank.rank? f.z = some i → i ≤ depthRank before.1)
    (h : Front fs before after) : Front (f :: fs) before after := by
  refine ⟨h.ranked, h.mono, ?_, ?_⟩
  · intro g hg i hi
    rcases List.mem_cons.1 hg with rfl | hg
    · exact (hle i hi).trans h.mono
    · exact h.max g hg i hi
  · rcases h.first with rfl | ⟨hgrow, g, hg, heq⟩
    · exact .inl rfl
    · have hne : ¬ DepthRank.rank? f.z = some (depthRank after.1) :=
        fun hi => absurd (hle _ hi) (not_le.2 hgrow)
      exact .inr ⟨hgrow, g, by rw [List.find?_cons_of_neg (by simpa using hne), hg], heq⟩

/-- A fragment that is not nearer than a cell is not ranked above it. -/
theorem le_of_not_nearer {d : Option α} (hd : IsRanked d)
    (hn : Canvas.nearer d f.z = false) {i : ρ} (hi : DepthRank.rank? f.z = some i) :
    i ≤ depthRank d :=
  not_lt.1 fun hlt => by
    rw [(nearer_iff hd).2 ⟨i, hi, hlt⟩] at hn
    cases hn

/-- The running maximum: whatever fragments fall on a cell, it ends up as `Front` says. By induction
on the list: its first fragment takes the cell, or it is not ranked above it. -/
theorem front_foldl_enter (hb : IsRanked before.1) :
    Front fs before (fs.foldl Fragment.enter before) := by
  induction fs generalizing before with
  | nil => exact ⟨hb, le_refl _, by simp, .inl rfl⟩
  | cons f fs ih =>
    rw [List.foldl_cons]
    cases hn : Canvas.nearer before.1 f.z with
    | true =>
      obtain ⟨j, hj, hlt⟩ := (nearer_iff hb).1 hn
      have henter : Fragment.enter before f = (some f.z, f.colour) := by simp [Fragment.enter, hn]
      rw [henter]
      exact .cons_taken hj hlt (ih fun z hz => by cases hz; exact ⟨j, hj⟩)
    | false =>
      have henter : Fragment.enter before f = before := by simp [Fragment.enter, hn]
      rw [henter]
      exact .cons_kept (fun i hi => le_of_not_nearer hb hn hi) (ih hb)

/-- A fragment of the list does not take the cell a second time. -/
theorem Front.enter_again (h : Front fs before after) (hf : f ∈ fs) :
    Fragment.enter after f = after := by
  have hn : ¬ Canvas.nearer after.1 f.z = true := by
    rw [nearer_iff h.ranked]
    rintro ⟨j, hj, hlt⟩
    exact absurd (h.max f hf j hj) (not_le.2 hlt)
  simp [Fragment.enter, hn]

/-- More fragments do not make the rank of a cell less. -/
theorem Front.rank_le (h : Front fs before after) (h' : Front gs before after')
    (hsub : fs ⊆ gs) : depthRank after.1 ≤ depthRank after'.1 := by
  rcases h.first with rfl | ⟨-, f, hf, -⟩
  · exact h'.mono
  · exact h'.max f (hsub (List.mem_of_find?_eq_some hf)) _ (by simpa using List.find?_some hf)

/-- The order of the fragments does not matter for the rank of a cell. -/
theorem Front.rank_perm (h : Front fs before after) (h' : Front gs before after')
    (hp : fs.Perm gs) : depthRank after.1 = depthRank after'.1 :=
  le_antisymm (h.rank_le h' hp.subset) (h'.rank_le h hp.symm.subset)

/-- The order of the fragments does not matter for the colour of a cell if those of the greatest
rank have one colour. -/
theorem Front.colour_perm (h : Front fs before after) (h' : Front gs before after')
    (hp : fs.Perm gs)
    (htie : ∀ f ∈ fs, ∀ g ∈ fs, DepthRank.rank? f.z = some (depthRank after.1) →
      DepthRank.rank? g.z = some (depthRank after.1) → f.colour = g.colour) :
    after.2 = after'.2 := by
  have hrank := h.rank_perm h' hp
  rcases h.first with rfl | ⟨hgrow, f, hf, rfl⟩
  · rcases h'.first with rfl | ⟨hgrow', -⟩
    · rfl
    · exact absurd hrank hgrow'.ne
  · rcases h'.first with rfl | ⟨-, g, hg, rfl⟩
    · exact absurd hrank hgrow.ne'
    · refine htie f (List.mem_of_find?_eq_some hf) g (hp.mem_iff.2 (List.mem_of_find?_eq_some hg))
        (by simpa using List.find?_some hf) ?_
      rw [hrank]
      simpa using List.find?_some hg

end

/-! ## Canvases -/

namespace Canvas

variable {c : Canvas α} {fs gs : List (Fragment α)} {x y : Int} {before : Option α × Rgb}

/-- What the cells of a canvas hold has ranks. -/
def Ranked (c : Canvas α) : Prop := ∀ x y cell, c.cell? x y = some cell → IsRanked (ρ := ρ) cell.1

/-- An empty canvas holds nothing. -/
theorem ranked_blank {e : Extent} {b : Rgb} : (blank e b : Canvas α).Ranked := by
  intro x y cell h z hz
  have hin : e.Contains x y := isSome_cell?.1 (by rw [h]; rfl)
  rw [cell?_blank hin] at h
  cases h
  cases hz

/-- Each cell ends up with the first of the nearest fragments that fall on it. -/
theorem front_paint (fs : List (Fragment α)) (hc : c.Ranked) (hb : c.cell? x y = some before) :
    ∃ after, (c.paint fs).cell? x y = some after ∧
      Front (fs.filter (·.isAt x y)) before after :=
  ⟨_, by rw [cell?_paint, hb]; rfl, front_foldl_enter (hc x y before hb)⟩

/-- Painting keeps the cells ranked. -/
theorem Ranked.paint (hc : c.Ranked) : (c.paint fs).Ranked := by
  intro x y cell h
  have hin := isSome_cell?_paint.symm.trans (Option.isSome_iff_exists.2 ⟨_, h⟩)
  obtain ⟨before, hb⟩ := Option.isSome_iff_exists.1 hin
  obtain ⟨after, ha, hfront⟩ := front_paint fs hc hb
  rw [h] at ha
  cases ha
  exact hfront.ranked

/-- Fragments that were painted already change nothing. -/
theorem paint_again (hc : c.Ranked) (hsub : gs ⊆ fs) : (c.paint fs).paint gs = c.paint fs := by
  refine ext_cell? extent_paint background_paint fun x y => ?_
  rw [cell?_paint]
  cases ha : (c.paint fs).cell? x y with
  | none => rfl
  | some after =>
    have hin := isSome_cell?_paint.symm.trans (Option.isSome_iff_exists.2 ⟨_, ha⟩)
    obtain ⟨before, hb⟩ := Option.isSome_iff_exists.1 hin
    obtain ⟨after', ha', hfront⟩ := front_paint fs hc hb
    rw [ha] at ha'
    cases ha'
    have hkeep : ∀ l ⊆ gs.filter (·.isAt x y), l.foldl Fragment.enter after = after := by
      intro l
      induction l with
      | nil => exact fun _ => rfl
      | cons f l ih =>
        intro hl
        obtain ⟨hf, hl⟩ := List.cons_subset.1 hl
        obtain ⟨hfg, hfat⟩ := List.mem_filter.1 hf
        rw [List.foldl_cons, hfront.enter_again (List.mem_filter.2 ⟨hsub hfg, hfat⟩)]
        exact ih hl
    exact congrArg some (hkeep _ (List.Subset.refl _))

end Canvas

end

/-! ## Doubles -/

/-- The depth of a cell as a double: an empty cell lies at negative infinity. -/
def Canvas.depthAt (c : Canvas Float) (x y : Int) : Float := (c.depth? x y).getD (-1.0 / 0.0)

/-- What a cell shows after some fragments, against what it showed before. Its depth is the greatest
of the depth before and those of the fragments that fall on it; its colour is that of the first
fragment with this depth if that is above the depth before, and the colour before otherwise. -/
structure ShowsNearest (fs : List (Fragment Float)) (c c' : Canvas Float) (x y : Int) : Prop where
  mono : c.depthAt x y ≤ c'.depthAt x y
  max : ∀ f ∈ fs, f.isAt x y = true → f.z.isNaN = false → f.z ≤ c'.depthAt x y
  drawn : c.depthAt x y < c'.depthAt x y →
    ∃ f, fs.find? (fun f => f.isAt x y && f.z == c'.depthAt x y) = some f ∧
      c'.depthAt x y = f.z ∧ c'.colour? x y = some f.colour
  kept : ¬ c.depthAt x y < c'.depthAt x y →
    c'.depthAt x y = c.depthAt x y ∧ c'.colour? x y = c.colour? x y

namespace Canvas

variable {c c' : Canvas Float} {x y : Int}

/-- The depth of a cell has the rank of what the cell holds. -/
theorem rank?_depthAt {cell : Option Float × Rgb} (h : c.cell? x y = some cell)
    (hr : IsRanked cell.1) : Binary64.rank? (c.depthAt x y) = some (depthRank cell.1) := by
  obtain ⟨d, k⟩ := cell
  rw [depthAt, depth?_eq_cell?, h]
  cases d with
  | none => exact Binary64.rank?_negative_infinity
  | some z =>
    obtain ⟨i, hi⟩ := hr z rfl
    have hi' : Binary64.rank? z = some i := hi
    simp [depthRank, hi, hi']

/-- A canvas without undefined depths is ranked. -/
theorem ranked_iff : c.Ranked ↔ ∀ x y, (c.depthAt x y).isNaN = false := by
  constructor
  · intro hc x y
    rw [← Bool.not_eq_true, ← Binary64.rank?_eq_none_iff]
    cases h : c.cell? x y with
    | none => simp [depthAt, depth?_eq_cell?, h]
    | some cell => simp [rank?_depthAt h (hc x y cell h)]
  · intro hc x y cell h z hz
    have hd : c.depthAt x y = z := by simp [depthAt, depth?_eq_cell?, h, hz]
    have hnan := hc x y
    rw [hd, ← Bool.not_eq_true, ← Binary64.rank?_eq_none_iff] at hnan
    exact Option.ne_none_iff_exists'.1 hnan

/-- Every cell of a canvas without undefined depths shows the first of the nearest fragments. -/
theorem showsNearest_paint {fs : List (Fragment Float)} (hc : c.Ranked)
    (hin : c.extent.Contains x y) : ShowsNearest fs c (c.paint fs) x y := by
  obtain ⟨before, hb⟩ := Option.isSome_iff_exists.1 (isSome_cell?.2 hin)
  obtain ⟨after, ha, hfront⟩ := front_paint fs hc hb
  have hrb := rank?_depthAt hb (hc x y before hb)
  have hra := rank?_depthAt ha hfront.ranked
  have hlt : c.depthAt x y < (c.paint fs).depthAt x y ↔
      depthRank before.1 < depthRank after.1 := by
    rw [Binary64.lt_iff_rank, hrb, hra]
    simp
  refine ⟨?_, fun f hf hat hnan => ?_, fun hgrow => ?_, fun hsame => ?_⟩
  · exact Binary64.le_iff_rank.2 ⟨_, _, hrb, hra, hfront.mono⟩
  · rw [← Bool.not_eq_true, ← Binary64.rank?_eq_none_iff] at hnan
    obtain ⟨i, hi⟩ := Option.ne_none_iff_exists'.1 hnan
    exact Binary64.le_iff_rank.2
      ⟨i, _, hi, hra, hfront.max f (List.mem_filter.2 ⟨hf, hat⟩) i hi⟩
  · rcases hfront.first with rfl | ⟨-, f, hf, rfl⟩
    · exact absurd (hlt.1 hgrow) (lt_irrefl _)
    · refine ⟨f, ?_, by simp [depthAt, depth?_eq_cell?, ha], by simp [colour?_eq_cell?, ha]⟩
      rw [List.find?_filter] at hf
      rw [← hf]
      congr 1
      funext g
      rw [Bool.eq_iff_iff, Bool.and_eq_true, Binary64.beq_iff_rank, hra]
      simp only [Option.some.injEq, exists_eq_right', decide_eq_true_eq, Bool.decide_and,
        Bool.and_eq_true, Bool.decide_eq_true]
      rfl
  · rcases hfront.first with rfl | ⟨hgrow, -⟩
    · exact ⟨by simp [depthAt, depth?_eq_cell?, ha, hb], by simp [colour?_eq_cell?, ha, hb]⟩
    · exact absurd (hlt.2 hgrow) hsame

variable {rs rs' : List (DrawRequest Float)}

/-- Every cell shows the first of the nearest fragments of the calls. -/
theorem showsNearest_drawAll (hc : c.Ranked) (hin : c.extent.Contains x y) :
    ShowsNearest (DrawRequest.allFragments c.extent rs) c (c.drawAll rs) x y := by
  rw [drawAll_eq_paint]
  exact showsNearest_paint hc hin

/-- A cell that is at negative infinity after calls on a cleared canvas has the background. -/
theorem colour?_of_depthAt_bot (hin : c.extent.Contains x y)
    (hd : ((c.clear.drawAll rs).depthAt x y == -1.0 / 0.0) = true) :
    (c.clear.drawAll rs).colour? x y = some c.background := by
  have hat : c.clear.depthAt x y = -1.0 / 0.0 := by
    simp [depthAt, depth?_eq_cell?, cell?_clear hin]
  have hshow : ShowsNearest (DrawRequest.allFragments c.extent rs) c.clear (c.clear.drawAll rs)
      x y :=
    showsNearest_drawAll (c := c.clear) ranked_blank hin
  have hsame : ¬ c.clear.depthAt x y < (c.clear.drawAll rs).depthAt x y := by
    obtain ⟨i, hi, hbot⟩ := Binary64.beq_iff_rank.1 hd
    rw [Binary64.lt_iff_rank, hat, hi]
    rintro ⟨_, _, h, ⟨⟩, hlt⟩
    rw [hbot] at h
    cases h
    exact absurd hlt (lt_irrefl _)
  rw [(hshow.kept hsame).2, colour?_eq_cell?, cell?_clear hin]
  rfl

/-- A call that is made again changes nothing. -/
theorem drawAll_again (hc : c.Ranked) {r : DrawRequest Float} (hr : r ∈ rs) :
    (c.drawAll rs).drawAll [r] = c.drawAll rs := by
  rw [drawAll_eq_paint, drawAll_eq_paint, extent_paint]
  refine paint_again hc fun f hf => ?_
  rw [DrawRequest.allFragments, List.flatMap_singleton] at hf
  exact List.mem_flatMap.2 ⟨r, hr, hf⟩

/-- Calls in another order leave the same depth in a cell, and the same colour if no two colours tie
at that depth. -/
theorem drawAll_perm (hc : c.Ranked) (hp : rs.Perm rs') (hin : c.extent.Contains x y) :
    ((c.drawAll rs').depthAt x y == (c.drawAll rs).depthAt x y) = true ∧
    ((∀ f ∈ DrawRequest.allFragments c.extent rs, ∀ g ∈ DrawRequest.allFragments c.extent rs,
        f.isAt x y = true → g.isAt x y = true →
        (f.z == (c.drawAll rs).depthAt x y) = true → (g.z == (c.drawAll rs).depthAt x y) = true →
        f.colour = g.colour) →
      (c.drawAll rs').colour? x y = (c.drawAll rs).colour? x y) := by
  obtain ⟨before, hb⟩ := Option.isSome_iff_exists.1 (isSome_cell?.2 hin)
  rw [drawAll_eq_paint, drawAll_eq_paint]
  obtain ⟨after, ha, hfront⟩ := front_paint (DrawRequest.allFragments c.extent rs) hc hb
  obtain ⟨after', ha', hfront'⟩ := front_paint (DrawRequest.allFragments c.extent rs') hc hb
  have hperm : ((DrawRequest.allFragments c.extent rs).filter (·.isAt x y)).Perm
      ((DrawRequest.allFragments c.extent rs').filter (·.isAt x y)) :=
    (hp.flatMap_right _).filter _
  have hrank := rank?_depthAt ha hfront.ranked
  have hrank' := rank?_depthAt ha' hfront'.ranked
  refine ⟨Binary64.beq_iff_rank.2 ⟨_, hrank', by rw [hrank, hfront.rank_perm hfront' hperm]⟩,
    fun htie => ?_⟩
  rw [colour?_eq_cell?, colour?_eq_cell?, ha, ha']
  refine congrArg some (hfront.colour_perm hfront' hperm ?_).symm
  intro f hf g hg hfr hgr
  obtain ⟨hf, hfat⟩ := List.mem_filter.1 hf
  obtain ⟨hg, hgat⟩ := List.mem_filter.1 hg
  exact htie f hf g hg hfat hgat (Binary64.beq_iff_rank.2 ⟨_, hfr, hrank⟩)
    (Binary64.beq_iff_rank.2 ⟨_, hgr, hrank⟩)

end Canvas

/-- Visibility by the depth buffer. After any calls on a canvas without undefined depths, each cell
shows the first of the nearest fragments that fell on it. Hence no depth becomes undefined; a cell
that is still at negative infinity since the canvas was cleared has the background; a call that is
made again changes nothing; and calls in another order leave the same depths, and the same colour in
each cell at whose depth no two colours tie. -/
theorem depth_buffer_visibility (c : Canvas Float) (hc : ∀ x y, (c.depthAt x y).isNaN = false)
    (rs : List (DrawRequest Float)) :
    (∀ x y, c.extent.Contains x y →
      ShowsNearest (DrawRequest.allFragments c.extent rs) c (c.drawAll rs) x y) ∧
    (∀ x y, ((c.drawAll rs).depthAt x y).isNaN = false) ∧
    (∀ x y, c.extent.Contains x y → ((c.clear.drawAll rs).depthAt x y == -1.0 / 0.0) = true →
      (c.clear.drawAll rs).colour? x y = some c.background) ∧
    (∀ r ∈ rs, (c.drawAll rs).drawAll [r] = c.drawAll rs) ∧
    (∀ rs', rs.Perm rs' → ∀ x y, c.extent.Contains x y →
      ((c.drawAll rs').depthAt x y == (c.drawAll rs).depthAt x y) = true ∧
      ((∀ f ∈ DrawRequest.allFragments c.extent rs, ∀ g ∈ DrawRequest.allFragments c.extent rs,
          f.isAt x y = true → g.isAt x y = true →
          (f.z == (c.drawAll rs).depthAt x y) = true → (g.z == (c.drawAll rs).depthAt x y) = true →
          f.colour = g.colour) →
        (c.drawAll rs').colour? x y = (c.drawAll rs).colour? x y)) := by
  have hr : c.Ranked := Canvas.ranked_iff.2 hc
  refine ⟨fun x y hin => Canvas.showsNearest_drawAll hr hin, ?_,
    fun x y hin hd => Canvas.colour?_of_depthAt_bot hin hd,
    fun r hrs => Canvas.drawAll_again hr hrs,
    fun rs' hp x y hin => Canvas.drawAll_perm hr hp hin⟩
  rw [Canvas.drawAll_eq_paint]
  exact Canvas.ranked_iff.1 hr.paint

/-- A cell that holds a depth already, an undefined fragment and two colours that tie in front of
it. -/
theorem depth_buffer_visibility_of_tie :
    (∀ x y, (((Canvas.blank ⟨1, 1⟩ .white).paint [⟨0, 0, 1, .black⟩]).depthAt x y).isNaN = false) ∧
    ShowsNearest
      (DrawRequest.allFragments ⟨1, 1⟩
        [.segments ⟨0, 0, 255⟩ [⟨0, 0, 0 / 0, 1⟩, ⟨0, 0, 0 / 0, 1⟩],
          .segments ⟨255, 0, 0⟩ [⟨0, 0, 2, 1⟩, ⟨0, 0, 2, 1⟩],
          .segments ⟨0, 255, 0⟩ [⟨0, 0, 2, 1⟩, ⟨0, 0, 2, 1⟩]])
      ((Canvas.blank ⟨1, 1⟩ .white).paint [⟨0, 0, 1, .black⟩])
      (((Canvas.blank ⟨1, 1⟩ .white).paint [⟨0, 0, 1, .black⟩]).drawAll
        [.segments ⟨0, 0, 255⟩ [⟨0, 0, 0 / 0, 1⟩, ⟨0, 0, 0 / 0, 1⟩],
          .segments ⟨255, 0, 0⟩ [⟨0, 0, 2, 1⟩, ⟨0, 0, 2, 1⟩],
          .segments ⟨0, 255, 0⟩ [⟨0, 0, 2, 1⟩, ⟨0, 0, 2, 1⟩]]) 0 0 := by
  have h : ∀ x y,
      (((Canvas.blank ⟨1, 1⟩ .white).paint [⟨0, 0, 1, .black⟩]).depthAt x y).isNaN = false :=
    Canvas.ranked_iff.1 Canvas.ranked_blank.paint
  refine ⟨h, ?_⟩
  have hin : ((Canvas.blank ⟨1, 1⟩ .white).paint
      [⟨0, 0, (1 : Float), .black⟩]).extent.Contains 0 0 := by
    rw [Canvas.extent_paint]
    decide
  have hshow := (depth_buffer_visibility _ h
    [.segments ⟨0, 0, 255⟩ [⟨0, 0, 0 / 0, 1⟩, ⟨0, 0, 0 / 0, 1⟩],
      .segments ⟨255, 0, 0⟩ [⟨0, 0, 2, 1⟩, ⟨0, 0, 2, 1⟩],
      .segments ⟨0, 255, 0⟩ [⟨0, 0, 2, 1⟩, ⟨0, 0, 2, 1⟩]]).1 0 0 hin
  rwa [Canvas.extent_paint] at hshow

end SceneScript
