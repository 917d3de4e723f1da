import Mathlib.Algebra.BigOperators.Group.Finset.Piecewise
import Mathlib.Data.List.Flatten
import Mathlib.Data.List.Nodup
import Mathlib.Tactic.Ring
import SceneScript.Proofs.Space.Grid
import SceneScript.Proofs.Space.Linear

/-!
# Closed surfaces

The triangles of a box, a sphere and a torus close up without a gap, and all are wound the same way:
each directed edge of one of them belongs to that triangle alone, and the edge in the other
direction to one other (`IsClosedSurface`). This holds of the labels of their corners, whatever the
positions are (`solids_closed`). All meridians of a sphere end in the same two poles, so their ends
count as one corner each (`Sphere.vertex`).

Going round a solid is counting modulo the number of its parts (`partAfter`). With at least three
parts no step leads back, not even two of them; this is all that the proofs need of the number.
-/

namespace SceneScript

/-- The directed edges of a triangle, round it. -/
def edgesOf {β : Type} : β × β × β → List (β × β)
  | (a, b, c) => [(a, b), (b, c), (c, a)]

/-- Whether triangles make a closed surface and are all wound the same way round: no triangle has a
corner twice, and each of its directed edges is one of exactly one triangle, and in the other
direction, too. -/
structure IsClosedSurface {β : Type} [DecidableEq β] (faces : List (β × β × β)) : Prop where
  distinct : ∀ t ∈ faces, t.1 ≠ t.2.1 ∧ t.2.1 ≠ t.2.2 ∧ t.2.2 ≠ t.1
  once : ∀ t ∈ faces, ∀ e ∈ edgesOf t, faces.countP (fun t => decide (e ∈ edgesOf t)) = 1
  reversed : ∀ t ∈ faces, ∀ e ∈ edgesOf t, faces.countP (fun t => decide (e.swap ∈ edgesOf t)) = 1

/-- The next of `n` parts round a solid. -/
def partAfter (n i : Nat) : Nat := (i + 1) % n

section
variable {n i i' : Nat}

/-- The next part is the one with the next number, and after the last comes the first. -/
theorem partAfter_eq (hi : i < n) : partAfter n i = if i + 1 = n then 0 else i + 1 := by
  unfold partAfter
  split
  · next h => rw [h, Nat.mod_self]
  · next h => exact Nat.mod_eq_of_lt (by omega)

/-- There is a next part. -/
theorem partAfter_lt (hi : i < n) : partAfter n i < n := Nat.mod_lt _ (by omega)

/-- Each part is the next of one. -/
theorem exists_partAfter_eq (hi : i < n) : ∃ i' < n, partAfter n i' = i := by
  rcases Nat.eq_zero_or_pos i with rfl | hpos
  · exact ⟨n - 1, by omega, by rw [partAfter_eq (by omega), if_pos (by omega)]⟩
  · exact ⟨i - 1, by omega, by rw [partAfter_eq (by omega), if_neg (by omega)]; omega⟩

/-- Each part is the next of one alone. -/
theorem partAfter_inj (hi : i < n) (hi' : i' < n) (h : partAfter n i = partAfter n i') :
    i = i' := by
  rw [partAfter_eq hi, partAfter_eq hi'] at h
  split at h <;> split at h <;> omega

/-- The next part is another one. -/
theorem partAfter_ne (hn : 3 ≤ n) (hi : i < n) : partAfter n i ≠ i := by
  rw [partAfter_eq hi]
  split <;> omega

/-- The next part but one is another one, too. -/
theorem partAfter_partAfter_ne (hn : 3 ≤ n) (hi : i < n) : partAfter n (partAfter n i) ≠ i := by
  rw [partAfter_eq (partAfter_lt hi), partAfter_eq hi]
  split <;> split <;> omega

end

/-- The corners of triangles. -/
theorem mem_corners {β : Type} {faces : List (β × β × β)} {p : β} :
    p ∈ corners faces ↔ ∃ t ∈ faces, p = t.1 ∨ p = t.2.1 ∨ p = t.2.2 := by
  simp [corners]

/-- Every triangle has three corners. -/
theorem length_corners {β : Type} (faces : List (β × β × β)) :
    (corners faces).length = faces.length * 3 := by
  simp [corners, List.length_flatMap]

/-- The items of a mesh of labelled triangles. -/
theorem items_ofFaces {α β : Type} (faces : List (β × β × β)) (position : β → Vec3 α) :
    (Mesh.ofFaces faces position).items = faces.length := by
  rw [Mesh.ofFaces, Geometry.items, List.length_map, length_corners,
    Nat.mul_div_cancel _ (by decide)]

section
variable {β : Type} [DecidableEq β] {faces : List (β × β × β)}

/-- Triangles make a closed surface when no directed edge belongs to two of them, and each belongs
to one of them in the other direction. -/
theorem IsClosedSurface.of_unique (hnodup : faces.Nodup)
    (hdistinct : ∀ t ∈ faces, t.1 ≠ t.2.1 ∧ t.2.1 ≠ t.2.2 ∧ t.2.2 ≠ t.1)
    (hunique : ∀ t ∈ faces, ∀ t' ∈ faces, ∀ e ∈ edgesOf t, e ∈ edgesOf t' → t = t')
    (hreversed : ∀ t ∈ faces, ∀ e ∈ edgesOf t, ∃ t' ∈ faces, e.swap ∈ edgesOf t') :
    IsClosedSurface faces := by
  have honce : ∀ t ∈ faces, ∀ e ∈ edgesOf t,
      faces.countP (fun t => decide (e ∈ edgesOf t)) = 1 := by
    intro t ht e he
    calc faces.countP (fun t => decide (e ∈ edgesOf t))
        = faces.countP (· == t) := List.countP_congr fun t' ht' => by
          simp only [decide_eq_true_eq, beq_iff_eq]
          exact ⟨fun he' => (hunique t ht t' ht' e he he').symm, fun h => h ▸ he⟩
      _ = 1 := List.count_eq_one_of_mem hnodup ht
  refine ⟨hdistinct, honce, fun t ht e he => ?_⟩
  obtain ⟨t', ht', he'⟩ := hreversed t ht e he
  exact honce t' ht' e.swap he'

/-- A surface of cells is closed when no directed edge belongs to triangles of two cells or to two
of one cell, and each belongs to one in the other direction. -/
theorem IsClosedSurface.of_cells {n : Nat} {cell : Nat → Nat → List (β × β × β)}
    (hnodup : ∀ i < n, ∀ j < n, (cell i j).Nodup)
    (hdistinct : ∀ i < n, ∀ j < n, ∀ t ∈ cell i j, t.1 ≠ t.2.1 ∧ t.2.1 ≠ t.2.2 ∧ t.2.2 ≠ t.1)
    (hunique : ∀ i < n, ∀ j < n, ∀ i' < n, ∀ j' < n, ∀ t ∈ cell i j, ∀ t' ∈ cell i' j',
      ∀ e ∈ edgesOf t, e ∈ edgesOf t' → i = i' ∧ j = j' ∧ t = t')
    (hreversed : ∀ i < n, ∀ j < n, ∀ t ∈ cell i j, ∀ e ∈ edgesOf t,
      ∃ i' < n, ∃ j' < n, ∃ t' ∈ cell i' j', e.swap ∈ edgesOf t') :
    IsClosedSurface ((List.range n).flatMap fun i => (List.range n).flatMap (cell i)) := by
  have hmem (t : β × β × β) :
      t ∈ (List.range n).flatMap (fun i => (List.range n).flatMap (cell i)) ↔
        ∃ i < n, ∃ j < n, t ∈ cell i j := by
    simp only [List.mem_flatMap, List.mem_range]
  -- a triangle shares its first edge with itself, so it belongs to one cell
  have hcell : ∀ i < n, ∀ j < n, ∀ i' < n, ∀ j' < n, ∀ t ∈ cell i j, t ∈ cell i' j' →
      i = i' ∧ j = j' := fun i hi j hj i' hi' j' hj' t ht ht' =>
    have h := hunique i hi j hj i' hi' j' hj' t ht t ht' (t.1, t.2.1) (.head _) (.head _)
    ⟨h.1, h.2.1⟩
  refine .of_unique ?_ ?_ ?_ ?_
  · refine List.nodup_flatMap.2 ⟨fun i hi => List.nodup_flatMap.2 ⟨fun j hj => ?_, ?_⟩, ?_⟩
    · exact hnodup i (List.mem_range.1 hi) j (List.mem_range.1 hj)
    · refine List.nodup_range.imp_of_mem fun {j j'} hj hj' hne t ht ht' => hne ?_
      rw [List.mem_range] at hi hj hj'
      exact (hcell i hi j hj i hi j' hj' t ht ht').2
    · refine List.nodup_range.imp_of_mem fun {i i'} hi hi' hne t ht ht' => hne ?_
      obtain ⟨j, hj, ht⟩ := List.mem_flatMap.1 ht
      obtain ⟨j', hj', ht'⟩ := List.mem_flatMap.1 ht'
      rw [List.mem_range] at hi hi' hj hj'
      exact (hcell i hi j hj i' hi' j' hj' t ht ht').1
  · intro t ht
    obtain ⟨i, hi, j, hj, ht⟩ := (hmem t).1 ht
    exact hdistinct i hi j hj t ht
  · intro t ht t' ht' e he he'
    obtain ⟨i, hi, j, hj, ht⟩ := (hmem t).1 ht
    obtain ⟨i', hi', j', hj', ht'⟩ := (hmem t').1 ht'
    exact (hunique i hi j hj i' hi' j' hj' t ht t' ht' e he he').2.2
  · intro t ht e he
    obtain ⟨i, hi, j, hj, ht⟩ := (hmem t).1 ht
    obtain ⟨i', hi', j', hj', t', ht', he'⟩ := hreversed i hi j hj t ht e he
    exact ⟨t', (hmem t').2 ⟨i', hi', j', hj', ht'⟩, he'⟩

end

namespace Torus

variable {n i j i' j' : Nat} {t t' : (Nat × Nat) × (Nat × Nat) × (Nat × Nat)}
  {e : (Nat × Nat) × (Nat × Nat)}

/-- The triangles of a patch. -/
theorem mem_patch : t ∈ patch n i j ↔ t = ((i, j), (partAfter n i, j), (i, partAfter n j)) ∨
    t = ((i, partAfter n j), (partAfter n i, j), (partAfter n i, partAfter n j)) := by
  simp [patch, partAfter]

/-- A directed edge of a torus belongs to one patch and one of its triangles. -/
theorem patch_unique (hn : 3 ≤ n) (hi : i < n) (hj : j < n) (hi' : i' < n) (hj' : j' < n)
    (ht : t ∈ patch n i j) (ht' : t' ∈ patch n i' j') (he : e ∈ edgesOf t) (he' : e ∈ edgesOf t') :
    i = i' ∧ j = j' ∧ t = t' := by
  have hne {i : Nat} := @partAfter_ne n i hn
  have hne' {i : Nat} := @partAfter_partAfter_ne n i hn
  have hinj {i i' : Nat} := @partAfter_inj n i i'
  rw [mem_patch] at ht ht'
  rcases ht with rfl | rfl <;> rcases ht' with rfl | rfl <;>
    simp only [edgesOf, List.mem_cons, List.not_mem_nil, or_false] at he he' <;> grind

/-- Each directed edge of a torus belongs to one of its triangles in the other direction. -/
theorem patch_reversed (hi : i < n) (hj : j < n) (ht : t ∈ patch n i j) (he : e ∈ edgesOf t) :
    ∃ i' < n, ∃ j' < n, ∃ t' ∈ patch n i' j', e.swap ∈ edgesOf t' := by
  obtain ⟨left, hleft, hi'⟩ := exists_partAfter_eq hi
  obtain ⟨below, hbelow, hj'⟩ := exists_partAfter_eq hj
  have hlower (i j : Nat) := (mem_patch (n := n) (i := i) (j := j)).2 (.inl rfl)
  have hupper (i j : Nat) := (mem_patch (n := n) (i := i) (j := j)).2 (.inr rfl)
  rw [mem_patch] at ht
  rcases ht with rfl | rfl <;>
    simp only [edgesOf, List.mem_cons, List.not_mem_nil, or_false] at he
  · rcases he with rfl | rfl | rfl
    · exact ⟨i, hi, below, hbelow, _, hupper i below, by simp [edgesOf, hj']⟩
    · exact ⟨i, hi, j, hj, _, hupper i j, by simp [edgesOf]⟩
    · exact ⟨left, hleft, j, hj, _, hupper left j, by simp [edgesOf, hi']⟩
  · rcases he with rfl | rfl | rfl
    · exact ⟨i, hi, j, hj, _, hlower i j, by simp [edgesOf]⟩
    · exact ⟨partAfter n i, partAfter_lt hi, j, hj, _, hlower (partAfter n i) j, by simp [edgesOf]⟩
    · exact ⟨i, hi, partAfter n j, partAfter_lt hj, _, hlower i (partAfter n j), by simp [edgesOf]⟩

/-- The triangles of a torus make a closed surface. -/
theorem isClosedSurface_faces (hn : 3 ≤ n) : IsClosedSurface (faces n) := by
  refine .of_cells (fun i hi j hj => ?_) (fun i hi j hj t ht => ?_)
    (fun i hi j hj i' hi' j' hj' t ht t' ht' e he he' =>
      patch_unique hn hi hj hi' hj' ht ht' he he')
    (fun i hi j hj t ht e he => patch_reversed hi hj ht he)
  · have hne := partAfter_ne hn hj
    simp [patch, ← partAfter.eq_1, hne.symm]
  · have hne := partAfter_ne hn hi
    have hne' := partAfter_ne hn hj
    rcases mem_patch.1 ht with rfl | rfl <;> simp [hne, hne', hne.symm, hne'.symm]

/-- The number of triangles of a torus. -/
theorem length_faces : (faces n).length = 2 * n ^ 2 := by
  simp only [faces, patch, List.length_flatMap, List.length_cons, List.length_nil, List.map_const',
    List.sum_replicate_nat, List.length_range]
  ring

/-- The triangles of a torus use the points of its grid. -/
theorem lt_of_mem_corners {p : Nat × Nat} (hp : p ∈ corners (faces n)) : p.1 < n ∧ p.2 < n := by
  simp only [mem_corners, faces, List.mem_flatMap, List.mem_range] at hp
  obtain ⟨t, ⟨i, hi, j, hj, ht⟩, hp⟩ := hp
  have hi' := partAfter_lt hi
  have hj' := partAfter_lt hj
  rcases mem_patch.1 ht with rfl | rfl <;> rcases hp with rfl | rfl | rfl <;> constructor <;>
    assumption

end Torus

namespace Sphere

/-- The corner at a place of a meridian. The first and the last place of all meridians are the same
two poles. -/
def vertex (n : Nat) (place : Nat × Nat) : Nat × Nat :=
  if place.2 = 0 ∨ place.2 = n then (0, place.2) else place

/-- A triangle with the poles of a sphere as single corners. -/
def closed (n : Nat) : (Nat × Nat) × (Nat × Nat) × (Nat × Nat) →
    (Nat × Nat) × (Nat × Nat) × (Nat × Nat)
  | (a, b, c) => (vertex n a, vertex n b, vertex n c)

variable {n i j i' j' : Nat} {t t' : (Nat × Nat) × (Nat × Nat) × (Nat × Nat)}
  {e : (Nat × Nat) × (Nat × Nat)}

/-- The triangles of a band. The first and the last have one corner in a pole. -/
theorem mem_closed_band (hj : j < n) : t ∈ (band n i j).map (closed n) ↔
    j ≠ 0 ∧ t = ((i, j), vertex n (i, j + 1), (partAfter n i, j)) ∨
    j + 1 ≠ n ∧ t = ((i, j + 1), (partAfter n i, j + 1), vertex n (partAfter n i, j)) := by
  have hlast : j = n - 1 ↔ j + 1 = n := by omega
  have hplace {i j : Nat} (h : j ≠ 0) (h' : j ≠ n) : vertex n (i, j) = (i, j) := by
    simp [vertex, h, h']
  simp only [band, ← partAfter.eq_1, ne_eq, ite_not, hlast, List.map_append, List.mem_append]
  refine or_congr ?_ ?_
  · split
    · next h => simp [h]
    · next h => simp [closed, hplace h hj.ne, h]
  · split
    · next h => simp [h]
    · next h => simp [closed, hplace (Nat.succ_ne_zero j) h, h]

/-- A directed edge of a sphere belongs to one band and one of its triangles. -/
theorem band_unique (hn : 3 ≤ n) (hi : i < n) (hj : j < n) (hi' : i' < n) (hj' : j' < n)
    (ht : t ∈ (band n i j).map (closed n)) (ht' : t' ∈ (band n i' j').map (closed n))
    (he : e ∈ edgesOf t) (he' : e ∈ edgesOf t') : i = i' ∧ j = j' ∧ t = t' := by
  have hne {i : Nat} := @partAfter_ne n i hn
  have hne' {i : Nat} := @partAfter_partAfter_ne n i hn
  have hinj {i i' : Nat} := @partAfter_inj n i i'
  rw [mem_closed_band hj] at ht
  rw [mem_closed_band hj'] at ht'
  rcases ht with ⟨hfirst, rfl⟩ | ⟨hlast, rfl⟩ <;>
    rcases ht' with ⟨hfirst', rfl⟩ | ⟨hlast', rfl⟩ <;>
    simp only [edgesOf, List.mem_cons, List.not_mem_nil, or_false, vertex] at he he' <;> grind

/-- Each directed edge of a sphere belongs to one of its triangles in the other direction. -/
theorem band_reversed (hi : i < n) (hj : j < n) (ht : t ∈ (band n i j).map (closed n))
    (he : e ∈ edgesOf t) :
    ∃ i' < n, ∃ j' < n, ∃ t' ∈ (band n i' j').map (closed n), e.swap ∈ edgesOf t' := by
  obtain ⟨left, hleft, hi'⟩ := exists_partAfter_eq hi
  have hlower (i : Nat) {j : Nat} (hj : j < n) (h : j ≠ 0) :=
    (mem_closed_band (i := i) hj).2 (.inl ⟨h, rfl⟩)
  have hupper (i : Nat) {j : Nat} (hj : j < n) (h : j + 1 ≠ n) :=
    (mem_closed_band (i := i) hj).2 (.inr ⟨h, rfl⟩)
  rw [mem_closed_band hj] at ht
  rcases ht with ⟨hfirst, rfl⟩ | ⟨hlast, rfl⟩ <;>
    simp only [edgesOf, List.mem_cons, List.not_mem_nil, or_false] at he
  · obtain ⟨below, rfl⟩ := Nat.exists_eq_add_one_of_ne_zero hfirst
    rcases he with rfl | rfl | rfl
    · -- along the meridian `i`, where the last band has no upper triangle
      by_cases hlast : below + 1 + 1 = n
      · exact ⟨left, hleft, _, hj, _, hlower left hj hfirst, by simp [edgesOf, vertex, hlast, hi']⟩
      · exact ⟨left, hleft, _, hj, _, hupper left hj hlast,
          by simp [edgesOf, vertex, hlast, hi', hj.ne]⟩
    · -- across the band, or in the last one along the next meridian
      by_cases hlast : below + 1 + 1 = n
      · exact ⟨_, partAfter_lt hi, _, hj, _, hlower (partAfter n i) hj hfirst,
          by simp [edgesOf, vertex, hlast]⟩
      · exact ⟨i, hi, _, hj, _, hupper i hj hlast, by simp [edgesOf, vertex, hlast, hj.ne]⟩
    · exact ⟨i, hi, below, by omega, _, hupper i (by omega) hj.ne, by simp [edgesOf]⟩
  · rcases he with rfl | rfl | rfl
    · exact ⟨i, hi, j + 1, by omega, _, hlower i (by omega) (by omega), by simp [edgesOf]⟩
    · -- along the next meridian, where the first band has no lower triangle
      rcases Nat.eq_zero_or_pos j with rfl | hpos
      · exact ⟨_, partAfter_lt hi, 0, hj, _, hupper (partAfter n i) hj hlast,
          by simp [edgesOf, vertex]⟩
      · exact ⟨_, partAfter_lt hi, j, hj, _, hlower (partAfter n i) hj hpos.ne',
          by simp [edgesOf, vertex, hlast, hpos.ne', hj.ne]⟩
    · -- across the band, or in the first one along the meridian `i`
      rcases Nat.eq_zero_or_pos j with rfl | hpos
      · exact ⟨left, hleft, 0, hj, _, hupper left hj hlast, by simp [edgesOf, vertex, hi']⟩
      · exact ⟨i, hi, j, hj, _, hlower i hj hpos.ne',
          by simp [edgesOf, vertex, hlast, hpos.ne', hj.ne]⟩

/-- The triangles of a sphere make a closed surface. -/
theorem isClosedSurface_faces (hn : 3 ≤ n) : IsClosedSurface ((faces n).map (closed n)) := by
  have hcells : (faces n).map (closed n) = (List.range n).flatMap fun i =>
      (List.range n).flatMap fun j => (band n i j).map (closed n) := by
    simp only [faces, List.map_flatMap]
  rw [hcells]
  refine .of_cells (fun i hi j hj => ?_) (fun i hi j hj t ht => ?_)
    (fun i hi j hj i' hi' j' hj' t ht t' ht' e he he' =>
      band_unique hn hi hj hi' hj' ht ht' he he')
    (fun i hi j hj t ht e he => band_reversed hi hj ht he)
  · simp only [band, ← partAfter.eq_1]
    split <;> split <;> simp [closed, vertex]
    grind
  · have hne := partAfter_ne hn hi
    rcases (mem_closed_band hj).1 ht with ⟨hfirst, rfl⟩ | ⟨hlast, rfl⟩ <;>
      simp [vertex] <;> grind

/-- The number of triangles along a meridian. -/
theorem length_bands (hn : 0 < n) : ((List.range n).flatMap (band n i)).length = 2 * (n - 1) := by
  -- the first and the last band have one triangle less than the others
  have hband (j : Nat) :
      (band n i j).length + ((if 0 = j then 1 else 0) + if n - 1 = j then 1 else 0) = 2 := by
    simp only [band, List.length_append]
    grind
  have hsum : ((List.range n).flatMap (band n i)).length + (1 + 1) = n * 2 := by
    calc ((List.range n).flatMap (band n i)).length + (1 + 1)
        = ∑ j ∈ Finset.range n, (band n i j).length +
          ∑ j ∈ Finset.range n, ((if 0 = j then 1 else 0) + if n - 1 = j then 1 else 0) := by
          rw [List.length_flatMap, Finset.sum_add_distrib, Finset.sum_ite_eq, Finset.sum_ite_eq,
            if_pos (Finset.mem_range.2 hn), if_pos (Finset.mem_range.2 (by omega))]
          rfl
      _ = n * 2 := by
          rw [← Finset.sum_add_distrib, Finset.sum_const_nat fun j _ => hband j, Finset.card_range]
  omega

/-- The number of triangles of a sphere. -/
theorem length_faces (hn : 0 < n) : (faces n).length = 2 * n * (n - 1) := by
  rw [faces, List.length_flatMap]
  simp only [length_bands hn, List.map_const', List.sum_replicate_nat, List.length_range]
  ring

/-- The triangles of a sphere use the points of its grid. -/
theorem lt_of_mem_corners {p : Nat × Nat} (hp : p ∈ corners (faces n)) : p.1 < n ∧ p.2 < n + 1 := by
  simp only [mem_corners, faces, List.mem_flatMap, List.mem_range] at hp
  obtain ⟨t, ⟨i, hi, j, hj, ht⟩, hp⟩ := hp
  have hi' := partAfter_lt hi
  simp only [band, ← partAfter.eq_1] at ht
  rcases List.mem_append.1 ht with ht | ht <;> split at ht <;> simp at ht <;> subst ht <;>
    rcases hp with rfl | rfl | rfl <;> constructor <;> simp only <;> omega

end Sphere

/-- The triangles of boxes, spheres and tori close up without a gap and are wound the same way
round. The corners of a mesh are those of labelled triangles at their positions; at a resolution of
three and more, the triangles make a closed surface, use the points of the grid alone, and are as
many as the resolution says. For a sphere the ends of the meridians are two corners. The mesh that
is drawn has the resolution that was asked for, if there is room for its grid. -/
theorem solids_closed {α : Type} [Machine] [Scalar α] [Trig α] (corner size centre : Vec3 α)
    (r₀ r₁ : α) {n : Nat} (hn : 3 ≤ n) :
    ((Box.mesh corner size).points = (corners Box.faces).map (Box.position corner size) ∧
      IsClosedSurface Box.faces ∧ (Box.mesh corner size).items = 12) ∧
    ((Sphere.mesh centre r₀ n).points =
        (corners (Sphere.faces n)).map (Sphere.position centre r₀ n) ∧
      IsClosedSurface ((Sphere.faces n).map (Sphere.closed n)) ∧
      (∀ p ∈ corners (Sphere.faces n), p.1 < n ∧ p.2 < n + 1) ∧
      (Sphere.mesh centre r₀ n).items = 2 * n * (n - 1) ∧
      ∀ mesh, Sphere.ofStep centre r₀ n = .ok mesh ↔
        8 * (n * (n + 1)) ≤ Machine.room ∧ mesh = Sphere.mesh centre r₀ n) ∧
    ((Torus.mesh centre r₀ r₁ n).points =
        (corners (Torus.faces n)).map (Torus.position centre r₀ r₁ n) ∧
      IsClosedSurface (Torus.faces n) ∧
      (∀ p ∈ corners (Torus.faces n), p.1 < n ∧ p.2 < n) ∧
      (Torus.mesh centre r₀ r₁ n).items = 2 * n ^ 2 ∧
      ∀ mesh, Torus.ofStep centre r₀ r₁ n = .ok mesh ↔
        8 * (n * n) ≤ Machine.room ∧ mesh = Torus.mesh centre r₀ r₁ n) := by
  refine ⟨⟨rfl, ?_, ?_⟩, ⟨rfl, Sphere.isClosedSurface_faces hn, fun _ => Sphere.lt_of_mem_corners,
    ?_, fun _ => Sphere.ofStep_eq_ok (by omega)⟩, rfl, Torus.isClosedSurface_faces hn,
    fun _ => Torus.lt_of_mem_corners, ?_, fun _ => Torus.ofStep_eq_ok (by omega)⟩
  · exact ⟨by decide, by decide, by decide⟩
  · rw [Box.mesh, items_ofFaces]
    rfl
  · rw [Sphere.mesh, items_ofFaces, Sphere.length_faces (by omega)]
  · rw [Torus.mesh, items_ofFaces, Torus.length_faces]

/-- A sphere and a torus of four parts, with doubles for positions. -/
theorem solids_closed_four :
    3 ≤ 4 ∧ IsClosedSurface ((Sphere.faces 4).map (Sphere.closed 4)) ∧
      IsClosedSurface (Torus.faces 4) ∧
      (Sphere.mesh (⟨0, 0, 0⟩ : Vec3 Float) 1 4).items = 24 ∧
      (Torus.mesh (⟨0, 0, 0⟩ : Vec3 Float) 1 2 4).items = 32 := by
  obtain ⟨-, ⟨-, hsphere, -, hsphereItems, -⟩, -, htorus, -, htorusItems, -⟩ :=
    solids_closed (⟨0, 0, 0⟩ : Vec3 Float) ⟨1, 1, 1⟩ ⟨0, 0, 0⟩ 1 2 (n := 4) (by decide)
  exact ⟨by decide, hsphere, htorus, hsphereItems, htorusItems⟩

end SceneScript
