import Mathlib.Algebra.BigOperators.Group.List.Lemmas
import Mathlib.Algebra.Order.BigOperators.GroupWithZero.List
import Mathlib.Algebra.Order.Ring.Int
import Mathlib.Tactic.Linarith
import SceneScript.Proofs.Machine
import SceneScript.Space.Solid

/-!
# Room for grids

There is room for a block of numbers if the product of its sizes says so (`Block.check_eq_ok`): all
that is checked on the way to the product follows from it. A solid is made of a grid of as many rows
as were asked for, if there is room for the grid (`rowsOf_gridOf`).
-/

namespace SceneScript

variable [Machine]

namespace Block

omit [Machine] in
/-- The bytes of positive sizes are their product, if it is a word. -/
theorem countBytes_eq {bytes count : Int} {shape : List Int} (hbytes : 0 < bytes)
    (hword : bytes ≤ greatestWord) (hpos : ∀ n ∈ shape, 0 < n) :
    countBytes bytes shape = .ok count ↔
      count = bytes * shape.prod ∧ bytes * shape.prod ≤ greatestWord := by
  induction shape generalizing bytes with
  | nil =>
    simp only [countBytes, List.prod_nil, mul_one, hword, and_true]
    exact ⟨fun h => by cases h; rfl, fun h => by rw [h]⟩
  | cons n rest ih =>
    have hn : 0 < n := hpos n (.head _)
    have hrest : ∀ k ∈ rest, 0 < k := fun k hk => hpos k (.tail _ hk)
    have hle : bytes * n ≤ bytes * n * rest.prod :=
      le_mul_of_one_le_right (mul_pos hbytes hn).le (List.prod_pos hrest)
    rw [countBytes, if_neg hn.ne', if_neg hn.le.not_gt, List.prod_cons, ← mul_assoc]
    split
    · next hlarge => exact ⟨fun h => (nomatch h), fun h => absurd (hle.trans h.2) hlarge.not_ge⟩
    · next hsmall => exact ih (mul_pos hbytes hn) (not_lt.1 hsmall) hrest

/-- There is room for a block of positive sizes if there is room for their product. -/
theorem check_eq_ok {b : Block} (hitem : 0 < b.itemSize) (hitem' : b.itemSize ≤ Machine.room)
    (hpos : ∀ n ∈ b.shape, 0 < n) :
    b.check = .ok () ↔ (b.itemSize : Int) * b.shape.prod ≤ Machine.room := by
  have hlimit : (Machine.room : Int) ≤ greatestWord := by
    have := Machine.room_lt
    omega
  have hitem : (0 : Int) < b.itemSize := Int.natCast_pos.2 hitem
  have hcount : ∀ {count : Int}, countBytes b.itemSize b.shape = .ok count ↔
      count = b.itemSize * b.shape.prod ∧ (b.itemSize : Int) * b.shape.prod ≤ greatestWord :=
    countBytes_eq hitem ((Int.ofNat_le.2 hitem').trans hlimit) hpos
  unfold check
  constructor
  · intro h
    split at h
    · cases h
    · cases hbytes : countBytes b.itemSize b.shape with
      | error fault => rw [hbytes] at h; cases h
      | ok bytes =>
        rw [hbytes] at h
        simp only [bind, Except.bind] at h
        split at h
        · cases h
        · next hsmall =>
          have hnone : b.shape.contains 0 = false := by simpa using fun h => (hpos 0 h).false
          rw [hnone] at hsmall
          rw [← (hcount.1 hbytes).1]
          simpa using hsmall
  · intro h
    have hwords : b.shape.any (!isWord ·) = false := by
      have hleast : leastWord ≤ 0 := by decide
      simp only [List.any_eq_false, isWord, Bool.not_eq_true', Bool.not_eq_false, Bool.and_eq_true,
        decide_eq_true_eq]
      intro n hn
      have hle : n ≤ b.shape.prod := Int.le_of_dvd (List.prod_pos hpos) (List.dvd_prod hn)
      have hle' : b.shape.prod ≤ b.itemSize * b.shape.prod :=
        le_mul_of_one_le_left (List.prod_pos hpos).le hitem
      have := hpos n hn
      exact ⟨by omega, by omega⟩
    rw [hwords, if_neg Bool.false_ne_true, hcount.2 ⟨rfl, h.trans hlimit⟩]
    simp only [bind, Except.bind]
    rw [if_neg fun h' => h.not_gt h'.1]
    rfl

end Block

/-- Evenly spaced values are as many as were asked for, if there is room for them. There are none if
they are too many for that but can still be counted by a double that is no word. -/
theorem spacedCount_eq_ok {n k : Nat} {item : String} (hn : 0 < n) :
    spacedCount n item = .ok k ↔ 8 * n ≤ Machine.room ∧ k = n ∨
      greatestWord - 512 < n ∧ n ≤ greatestWord + 1025 ∧ k = 0 := by
  have hcheck : Block.check ⟨[max (n : Int) 0], 8, item⟩ = .ok () ↔ 8 * n ≤ Machine.room := by
    rw [Block.check_eq_ok (Nat.succ_pos 7) Machine.le_room (by simpa using hn)]
    simp
    omega
  have hlimit := Machine.room_lt
  have hleast : leastWord ≤ 0 := by decide
  unfold spacedCount
  split
  · next hnone => exact ⟨fun h => (nomatch h), fun h => by omega⟩
  · split
    · next hlarge => exact ⟨fun h => by cases h; omega, fun h => by rw [show k = 0 by omega]; rfl⟩
    · next hsmall =>
      cases hroom : Block.check ⟨[max (n : Int) 0], 8, item⟩ with
      | error fault =>
        rw [hroom] at hcheck
        refine ⟨fun h => (nomatch h), fun h => ?_⟩
        rcases h with ⟨hle, -⟩ | ⟨hlarge, -⟩
        · cases hcheck.2 hle
        · exact absurd hlarge hsmall
      | ok =>
        refine ⟨fun h => by cases h; exact .inl ⟨hcheck.1 hroom, rfl⟩, fun h => ?_⟩
        rcases h with ⟨-, rfl⟩ | ⟨hlarge, -⟩
        · rfl
        · exact absurd hlarge hsmall

/-- A grid has evenly spaced rows and columns, and there is room for it. -/
theorem gridOf_eq_ok {rows columns : Int} {n m : Nat} : gridOf rows columns = .ok (n, m) ↔
    spacedCount rows "int64" = .ok n ∧ spacedCount columns "int64" = .ok m ∧
      Block.check ⟨[n, m], 8, "float64"⟩ = .ok () := by
  unfold gridOf
  constructor
  · intro h
    cases ha : spacedCount rows "int64" with
    | error fault => rw [ha] at h; cases h
    | ok a =>
      cases hb : spacedCount columns "int64" with
      | error fault => rw [ha, hb] at h; cases h
      | ok b =>
        rw [ha, hb] at h
        simp only [bind, Except.bind] at h
        cases hroom : Block.check ⟨[(a : Int), b], 8, "float64"⟩ with
        | error fault => rw [hroom] at h; cases h
        | ok => rw [hroom] at h; cases h; exact ⟨rfl, rfl, hroom⟩
  · rintro ⟨ha, hb, hroom⟩
    rw [ha, hb]
    simp only [bind, Except.bind]
    rw [hroom]
    rfl

section
variable {n m k : Nat}

/-- There is room for the grid of a solid. -/
theorem check_grid (hn : 0 < n) (hm : 0 < m) :
    Block.check ⟨[(n : Int), m], 8, "float64"⟩ = .ok () ↔ 8 * (n * m) ≤ Machine.room := by
  rw [Block.check_eq_ok (Nat.succ_pos 7) Machine.le_room (by simp [hn, hm])]
  simp only [List.prod_cons, List.prod_nil, mul_one]
  exact_mod_cast Iff.rfl

/-- A grid that there is room for has the rows and columns that were asked for. -/
theorem gridOf_of_room (hn : 0 < n) (hm : 0 < m) (hroom : 8 * (n * m) ≤ Machine.room) :
    gridOf n m = .ok (n, m) := by
  have hn' : n ≤ n * m := Nat.le_mul_of_pos_right n hm
  have hm' : m ≤ n * m := Nat.le_mul_of_pos_left m hn
  exact gridOf_eq_ok.2 ⟨(spacedCount_eq_ok hn).2 (.inl ⟨by omega, rfl⟩),
    (spacedCount_eq_ok hm).2 (.inl ⟨by omega, rfl⟩), (check_grid hn hm).2 hroom⟩

/-- A solid is made of as many rows as were asked for, if there is room for its grid. -/
theorem rowsOf_gridOf (hn : 0 < n) (hm : 0 < m) (hle : m ≤ n + 1) :
    rowsOf n (gridOf n m) = .ok k ↔ 8 * (n * m) ≤ Machine.room ∧ k = n := by
  have hlimit := Machine.room_lt
  constructor
  · intro h
    cases hgrid : gridOf n m with
    | error fault => rw [hgrid] at h; cases h
    | ok grid =>
      obtain ⟨a, b⟩ := grid
      rw [hgrid] at h
      simp only [rowsOf, bind, Except.bind] at h
      split at h
      · cases h
      · next hne =>
        cases h
        obtain ⟨ha, hb, hroom⟩ := gridOf_eq_ok.1 hgrid
        rcases (spacedCount_eq_ok hn).1 ha with ⟨hle', rfl⟩ | ⟨-, -, rfl⟩
        · rcases (spacedCount_eq_ok hm).1 hb with ⟨-, rfl⟩ | ⟨hlarge, -, -⟩
          · exact ⟨(check_grid hn hm).1 hroom, rfl⟩
          · omega
        · exact absurd ⟨rfl, Int.natCast_pos.2 hn⟩ hne
  · rintro ⟨hroom, rfl⟩
    rw [gridOf_of_room hn hm hroom]
    simp only [rowsOf, bind, Except.bind]
    rw [if_neg fun h => hn.ne' h.1]
    rfl

end

/-- The mesh of a solid has as many rows as were asked for, if there is room for its grid. -/
theorem map_rowsOf_gridOf {α : Type} {n m : Nat} {solid : Nat → Mesh α} {mesh : Mesh α}
    (hn : 0 < n) (hm : 0 < m) (hle : m ≤ n + 1) : (rowsOf n (gridOf n m)).map solid = .ok mesh ↔
      8 * (n * m) ≤ Machine.room ∧ mesh = solid n := by
  constructor
  · intro h
    cases hrows : rowsOf n (gridOf n m) with
    | error fault => rw [hrows] at h; cases h
    | ok k =>
      rw [hrows] at h
      cases h
      obtain ⟨hroom, rfl⟩ := (rowsOf_gridOf hn hm hle).1 hrows
      exact ⟨hroom, rfl⟩
  · rintro ⟨hroom, rfl⟩
    rw [(rowsOf_gridOf hn hm hle).2 ⟨hroom, rfl⟩]
    rfl

section
variable {α : Type} [Scalar α] [Trig α] {centre : Vec3 α} {n : Nat} {mesh : Mesh α}

/-- A sphere has as many meridians as were asked for, if there is room for its grid. -/
theorem Sphere.ofStep_eq_ok {radius : α} (hn : 0 < n) : ofStep centre radius n = .ok mesh ↔
    8 * (n * (n + 1)) ≤ Machine.room ∧ mesh = Sphere.mesh centre radius n :=
  map_rowsOf_gridOf hn n.succ_pos le_rfl

/-- A torus has as many rings as were asked for, if there is room for its grid. -/
theorem Torus.ofStep_eq_ok {tube ring : α} (hn : 0 < n) : ofStep centre tube ring n = .ok mesh ↔
    8 * (n * n) ≤ Machine.room ∧ mesh = Torus.mesh centre tube ring n :=
  map_rowsOf_gridOf hn hn n.le_succ

end

end SceneScript
