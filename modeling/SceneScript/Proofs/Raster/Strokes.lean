import SceneScript.Proofs.Space.Linear
import SceneScript.Raster.Draw

/-!
# Strokes

What is drawn of an item ends at the first number that stands for no cell. Of items one after
another the first fault of one of them counts (`Stroke.fault?_forEach`), and if there is none all of
their fragments are drawn (`Stroke.forEach_eq_flatMap`).

Which numbers these are is known beforehand: the bounds of the rows and columns that a triangle
reaches (`Triangle.converted`), and the coordinates that a segment comes to (`Segment.rounded`). So
a triangle or a segment ends early exactly if there is a number among them that stands for no cell
(`Triangle.fault?_stroke`, `Segment.fault?_stroke`).

In exact arithmetic every number stands for a cell (`Scalar.Exact`). So no stroke of a triangle or
of a segment ends early there (`Triangle.stroke_eq`, `Segment.stroke_eq`), and their fragments are
plain lists (`Triangle.fragments_eq_flatMap`, `Segment.stepped_eq_map`).
-/

namespace SceneScript

/-- An arithmetic in which every scalar stands for a coordinate of a cell. -/
class Scalar.Exact (α : Type) [Scalar α] : Prop where
  cellFault?_eq_none : ∀ v : α, Scalar.cellFault? v = none

instance : Scalar.Exact ℚ := ⟨fun _ => rfl⟩

instance {K : Type} [Field K] [LinearOrder K] [FloorRing K] : Scalar.Exact K := ⟨fun _ => rfl⟩

namespace Stroke

section
variable {α β : Type} {f : β → Stroke α} {xs : List β} {s : Stroke α} {fault? : Option Fault}

/-- Nothing is in front. -/
@[simp] theorem checked_none : checked none s = s := rfl

/-- The fault in front counts first. -/
theorem fault?_checked : (checked fault? s).fault? = fault?.or s.fault? := by
  cases fault? <;> rfl

/-- Of items one after another the first fault counts. -/
theorem fault?_forEach : (forEach f xs).fault? = xs.findSome? fun x => (f x).fault? := by
  induction xs with
  | nil => rfl
  | cons x xs ih =>
    rw [forEach, List.findSome?_cons, ← ih]
    obtain ⟨fs, fault?⟩ := f x
    cases fault? <;> rfl

/-- Items without a fault are drawn one after another. -/
theorem forEach_eq_flatMap (h : ∀ x ∈ xs, (f x).fault? = none) :
    forEach f xs = ⟨xs.flatMap fun x => (f x).fragments, none⟩ := by
  induction xs with
  | nil => rfl
  | cons x xs ih =>
    obtain ⟨hx, hxs⟩ := List.forall_mem_cons.1 h
    rw [forEach, ih hxs, List.flatMap_cons]
    cases hfx : f x with
    | mk fs fault? =>
      rw [hfx] at hx
      obtain rfl : fault? = none := hx
      rfl

end

end Stroke

/-! ## The numbers that become cells -/

/-- What is found first in a list is found at its head or behind it. -/
theorem findSome?_cons_eq_or {β γ : Type} (f : β → Option γ) (x : β) (xs : List β) :
    (x :: xs).findSome? f = (f x).or (xs.findSome? f) := by
  rw [List.findSome?_cons]
  cases f x <;> rfl

/-- What is found first in lists one after another is found first in one of them. -/
theorem findSome?_flatMap {β γ δ : Type} (xs : List β) (f : β → List γ) (g : γ → Option δ) :
    (xs.flatMap f).findSome? g = xs.findSome? fun x => (f x).findSome? g := by
  induction xs with
  | nil => rfl
  | cons x xs ih => rw [List.flatMap_cons, List.findSome?_append, ih, findSome?_cons_eq_or]

/-- If something is found at a member of a list, something is found first. -/
theorem exists_findSome?_of_mem {β γ : Type} {f : β → Option γ} {x : β} {xs : List β} {c : γ}
    (hx : x ∈ xs) (h : f x = some c) : ∃ c', xs.findSome? f = some c' := by
  rw [← Option.isSome_iff_exists, List.findSome?_isSome_iff]
  exact ⟨x, hx, by rw [h]; rfl⟩

section
variable {α : Type} [Scalar α]

namespace Triangle

/-- The rows of the canvas that filling a triangle visits. A level triangle has none. -/
def rows (e : Extent) (a b c : Vec3 α) : List Int :=
  let (low, _, high) := byHeight a b c
  if high.y == low.y then [] else cellsBetween low.y high.y e.height

/-- The left and the right end of a triangle at the height of a row. -/
def rowEnds (a b c : Vec3 α) (row : Int) : α × α :=
  let (low, mid, high) := byHeight a b c
  let long := (edgeAt low high ((row : Int) : α)).1
  let short := (shortEdgesAt low mid high ((row : Int) : α)).1
  if short < long then (short, long) else (long, short)

/-- The columns of the canvas that filling a triangle visits in a row. -/
def columns (e : Extent) (a b c : Vec3 α) (row : Int) : List Int :=
  cellsBetween (rowEnds a b c row).1 (rowEnds a b c row).2 e.width

/-- The numbers that filling a triangle turns into cells: the bounds of the rows, and in each row
that it visits those of the columns. -/
def converted (e : Extent) (a b c : Vec3 α) : List α :=
  let (low, _, high) := byHeight a b c
  if high.y == low.y then [] else
    [firstCell low.y, lastCell high.y e.height] ++ (rows e a b c).flatMap fun row =>
      [firstCell (rowEnds a b c row).1, lastCell (rowEnds a b c row).2 e.width]

/-- A row ends at once if one of its bounds stands for no cell. -/
theorem fault?_span {width : Nat} {colour : Rgb} {row : Int} {p q : α × α} :
    (span width colour row p q).fault? =
      cellsFault? (if q.1 < p.1 then q.1 else p.1) (if q.1 < p.1 then p.1 else q.1) width := by
  unfold span
  dsimp only
  rw [Stroke.fault?_checked, Option.or_none]
  split <;> rfl

/-- The filling of a triangle ends at the first bound that stands for no cell. -/
theorem fault?_stroke {e : Extent} {colour : Rgb} {a b c : Vec3 α} :
    (stroke e colour a b c).fault? = (converted e a b c).findSome? Scalar.cellFault? := by
  unfold stroke converted rows rowEnds
  obtain ⟨low, mid, high⟩ := byHeight a b c
  dsimp only
  split
  · rfl
  · simp only [Stroke.fault?_checked, Stroke.fault?_forEach, List.findSome?_append,
      findSome?_flatMap, findSome?_cons_eq_or, List.findSome?_nil, Option.or_none, fault?_span,
      cellsFault?]
    congr 2
    funext row
    split <;> rfl

end Triangle

namespace Segment

/-- The coordinates for which stepping along a segment looks for the nearest cells: those of the
ends of the part that is left of it, and those of each point on the way if the ends are in different
cells. -/
def rounded (e : Extent) (p q : Vec3 α) : List α :=
  let c := clip e p q
  if c.stop < c.start then [] else
    let (p, q) := ends p q c
    let n := steps p q
    [q.x, p.x, q.y, p.y] ++ if n = 0 then [] else
      (List.range (n + 1).toNat).flatMap fun (i : Nat) =>
        let t : α := ((i : Int) : α) / ((n : Int) : α)
        [p.x + t * (q.x - p.x), p.y + t * (q.y - p.y)]

/-- The drawing of a segment ends at the first coordinate that has no nearest cell. -/
theorem fault?_stroke {e : Extent} {colour : Rgb} {p q : Vec3 α} :
    (stroke e colour p q).fault? = (rounded e p q).findSome? Scalar.nearestFault? := by
  unfold stroke rounded
  dsimp only
  split
  · rfl
  · generalize ends p q (clip e p q) = pq
    obtain ⟨p, q⟩ := pq
    dsimp only
    have hends : [q.x, p.x, q.y, p.y].findSome? Scalar.nearestFault? = stepsFault? p q := by
      simp only [findSome?_cons_eq_or, List.findSome?_nil, Option.or_none]
      rfl
    unfold steppedStroke
    dsimp only
    rw [Stroke.fault?_checked, List.findSome?_append, hends]
    congr 1
    split
    · rfl
    · simp only [Stroke.fault?_forEach, findSome?_flatMap, Stroke.fault?_checked, Option.or_none,
        findSome?_cons_eq_or, List.findSome?_nil]
      rfl

end Segment

end

/-! ## Exact arithmetic -/

section
variable {α : Type} [Scalar α] [Scalar.Exact α]

/-- There is a nearest cell. -/
theorem Scalar.nearestFault?_eq_none (v : α) : nearestFault? v = none :=
  Exact.cellFault?_eq_none _

/-- There are cells between two numbers. -/
theorem cellsFault?_eq_none (lo hi : α) (n : Nat) : cellsFault? lo hi n = none := by
  rw [cellsFault?, Scalar.Exact.cellFault?_eq_none, Scalar.Exact.cellFault?_eq_none]
  rfl

namespace Triangle

variable {width : Nat} {e : Extent} {colour : Rgb} {row : Int} {p q : α × α} {a b c : Vec3 α}

/-- A row does not end early. -/
theorem span_eq : span width colour row p q =
    let (a, b) := if q.1 < p.1 then (q, p) else (p, q)
    ⟨(cellsBetween a.1 b.1 width).map fun column =>
      ⟨column, row, depthAt a.1 a.2 b.1 b.2 ((column : Int) : α), colour⟩, none⟩ := by
  unfold span
  dsimp only
  rw [cellsFault?_eq_none]
  rfl

/-- The filling of a triangle, row by row. -/
theorem stroke_eq_flatMap : stroke e colour a b c =
    let (low, mid, high) := byHeight a b c
    if high.y == low.y then .empty
    else ⟨(cellsBetween low.y high.y e.height).flatMap fun row =>
      (span e.width colour row (edgeAt low high ((row : Int) : α))
        (shortEdgesAt low mid high ((row : Int) : α))).fragments, none⟩ := by
  unfold stroke
  dsimp only
  rw [cellsFault?_eq_none, Stroke.checked_none,
    Stroke.forEach_eq_flatMap fun row _ => by rw [span_eq]]

/-- The filling of a triangle does not end early. -/
theorem stroke_eq : stroke e colour a b c = ⟨fragments e colour a b c, none⟩ := by
  have hfault : (stroke e colour a b c).fault? = none := by
    rw [stroke_eq_flatMap]
    dsimp only
    split <;> rfl
  rw [fragments, ← hfault]

/-- The fragments of a triangle, row by row. -/
theorem fragments_eq_flatMap : fragments e colour a b c =
    let (low, mid, high) := byHeight a b c
    if high.y == low.y then []
    else (cellsBetween low.y high.y e.height).flatMap fun row =>
      (span e.width colour row (edgeAt low high ((row : Int) : α))
        (shortEdgesAt low mid high ((row : Int) : α))).fragments := by
  rw [fragments, stroke_eq_flatMap]
  dsimp only
  split <;> rfl

end Triangle

namespace Segment

variable {e : Extent} {colour : Rgb} {p q : Vec3 α}

/-- The ends of a segment are cells. -/
theorem stepsFault?_eq_none (p q : Vec3 α) : stepsFault? p q = none := by
  simp only [stepsFault?, Scalar.nearestFault?_eq_none]
  rfl

/-- There is a fragment at each parameter. -/
theorem fragmentFault?_eq_none (p q : Vec3 α) (t : α) : fragmentFault? p q t = none := by
  simp only [fragmentFault?, Scalar.nearestFault?_eq_none]
  rfl

/-- The drawing of a segment that is not cut. -/
theorem steppedStroke_eq : steppedStroke colour p q =
    if steps p q = 0 then
      ⟨[⟨Scalar.nearest p.x, Scalar.nearest p.y, Scalar.larger p.z q.z, colour⟩], none⟩
    else
      ⟨(List.range (steps p q + 1).toNat).map fun (i : Nat) =>
        fragmentAt colour p q (((i : Int) : α) / ((steps p q : Int) : α)), none⟩ := by
  unfold steppedStroke
  dsimp only
  rw [stepsFault?_eq_none, Stroke.checked_none]
  simp only [fragmentFault?_eq_none, Stroke.checked_none]
  rw [Stroke.forEach_eq_flatMap fun _ _ => rfl, List.map_eq_flatMap]

/-- The fragments of a segment that is not cut. -/
theorem stepped_eq_map : stepped colour p q =
    if steps p q = 0 then
      [⟨Scalar.nearest p.x, Scalar.nearest p.y, Scalar.larger p.z q.z, colour⟩]
    else
      (List.range (steps p q + 1).toNat).map fun (i : Nat) =>
        fragmentAt colour p q (((i : Int) : α) / ((steps p q : Int) : α)) := by
  rw [stepped, steppedStroke_eq]
  split <;> rfl

/-- The drawing of a segment does not end early. -/
theorem stroke_eq : stroke e colour p q = ⟨fragments e colour p q, none⟩ := by
  have hfault : (stroke e colour p q).fault? = none := by
    unfold stroke
    dsimp only
    rw [steppedStroke_eq]
    split
    · rfl
    · split <;> rfl
  rw [fragments, ← hfault]

end Segment

end

end SceneScript
