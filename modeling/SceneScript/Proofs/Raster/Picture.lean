import Mathlib.Tactic.Ring
import SceneScript.Proofs.Raster.Cells
import SceneScript.Raster.Picture

/-!
# What a picture shows

An output does not receive a canvas but a picture of it, which is bytes. A picture shows a canvas
(`Picture.Shows`) if it is of its size and each cell has the three bytes of its colour: the rows come
from the top, and in a row the cells from the left. The picture on a canvas shows it
(`Canvas.shows_picture`).

The bytes are those of rows of one length, which are made of cells of one length. So a byte is found
by the number of its row, that of its cell in the row and its own in the cell
(`getElem?_flatMap_range`, twice).
-/

namespace SceneScript

/-- Whether a picture shows a canvas: it is of its size, it has three bytes for each cell and no
others, and the bytes for the cell in column `x` and row `y`, counted from the bottom, are the parts
of the colour in that cell. -/
structure Picture.Shows {α : Type} (p : Picture) (c : Canvas α) : Prop where
  width : p.width = c.extent.width
  height : p.height = c.extent.height
  size : p.bytes.size = 3 * (c.extent.width * c.extent.height)
  cell : ∀ x y : Nat, x < c.extent.width → y < c.extent.height → ∃ colour,
    c.colour? x y = some colour ∧
      let first := 3 * ((c.extent.height - 1 - y) * c.extent.width + x)
      p.bytes[first]? = some colour.red ∧ p.bytes[first + 1]? = some colour.green ∧
        p.bytes[first + 2]? = some colour.blue

section
variable {β : Type} {m n i j : Nat} {g : Nat → List β}

/-- Lists of one length, one after another. -/
theorem length_flatMap_range (hg : ∀ i < n, (g i).length = m) :
    ((List.range n).flatMap g).length = n * m := by
  induction n with
  | zero => simp
  | succ n ih =>
    rw [List.range_succ, List.flatMap_append, List.length_append,
      ih fun i hi => hg i (Nat.lt_succ_of_lt hi), List.flatMap_singleton, hg n (Nat.lt_succ_self n),
      Nat.succ_mul]

/-- What stands in lists of one length, one after another, is found by the list and the place in
it. -/
theorem getElem?_flatMap_range (hg : ∀ i < n, (g i).length = m) (hi : i < n) (hj : j < m) :
    ((List.range n).flatMap g)[i * m + j]? = (g i)[j]? := by
  induction n with
  | zero => exact absurd hi (Nat.not_lt_zero i)
  | succ n ih =>
    have hg' : ∀ i < n, (g i).length = m := fun i hi => hg i (Nat.lt_succ_of_lt hi)
    have hlength := length_flatMap_range hg'
    rw [List.range_succ, List.flatMap_append, List.flatMap_singleton]
    rcases Nat.lt_succ_iff_lt_or_eq.1 hi with hlt | rfl
    · have hplace : i * m + j < n * m := by
        have := Nat.mul_le_mul_right m (Nat.succ_le_of_lt hlt)
        rw [Nat.succ_mul] at this
        omega
      rw [List.getElem?_append_left (hlength ▸ hplace), ih hg' hlt]
    · rw [List.getElem?_append_right (by omega), hlength, Nat.add_sub_cancel_left]

end

/-- Bytes are found in their list. -/
theorem ByteArray.getElem?_eq_toList (bytes : ByteArray) (i : Nat) :
    bytes[i]? = bytes.data.toList[i]? := by
  rw [Array.getElem?_toList]
  rfl

/-- Steps that append to bytes append one after another. -/
theorem ByteArray.toList_fold {n : Nat} {f : Nat → ByteArray → ByteArray} {g : Nat → List UInt8}
    (hf : ∀ i bytes, (f i bytes).data.toList = bytes.data.toList ++ g i) (bytes : ByteArray) :
    (n.fold (fun i _ => f i) bytes).data.toList =
      bytes.data.toList ++ (List.range n).flatMap g := by
  induction n with
  | zero => simp
  | succ n ih =>
    rw [Nat.fold_succ, hf, ih, List.range_succ, List.flatMap_append, List.flatMap_singleton,
      List.append_assoc]

namespace Canvas

variable {α : Type} {c : Canvas α} {x y : Nat}

/-- The bytes of a cell of a picture. -/
def cellBytes (c : Canvas α) (y x : Nat) : List UInt8 :=
  match c.colours[y * c.extent.width + x]? with
  | some colour => [colour.red, colour.green, colour.blue]
  | none => []

/-- The bytes of a row of a picture. -/
def rowBytes (c : Canvas α) (y : Nat) : List UInt8 :=
  (List.range c.extent.width).flatMap (c.cellBytes y)

/-- The bytes of a picture. -/
theorem toList_bytes_picture (c : Canvas α) : c.picture.bytes.data.toList =
    (List.range c.extent.filledRows).flatMap fun r => c.rowBytes (c.extent.filledRows - 1 - r) := by
  have hcell (y x : Nat) (bytes : ByteArray) :
      (match c.colours[y * c.extent.width + x]? with
        | some k => ((bytes.push k.red).push k.green).push k.blue
        | none => bytes).data.toList = bytes.data.toList ++ c.cellBytes y x := by
    unfold cellBytes
    split <;> simp [ByteArray.data_push]
  have hrow (r : Nat) (bytes : ByteArray) := ByteArray.toList_fold (n := c.extent.width)
    (hcell (c.extent.filledRows - 1 - r)) bytes
  exact ByteArray.toList_fold hrow ByteArray.empty

/-- A cell of the canvas has a colour, and its bytes are those of the colour. -/
theorem exists_colour (hx : x < c.extent.width) (hy : y < c.extent.height) : ∃ colour,
    c.colour? x y = some colour ∧ c.cellBytes y x = [colour.red, colour.green, colour.blue] := by
  have hcontains : c.extent.Contains x y := ⟨by omega, by omega, by omega, by omega⟩
  obtain ⟨i, hi⟩ := Option.isSome_iff_exists.1 (Extent.isSome_index?.2 hcontains)
  have hplace : i.val = y * c.extent.width + x := (Extent.index?_eq_some_iff.1 hi).2
  refine ⟨c.colours[i], by rw [colour?, hi]; rfl, ?_⟩
  have hcolour : c.colours[y * c.extent.width + x]? = some c.colours[i] := by
    rw [← hplace]
    exact Vector.getElem?_eq_getElem i.isLt
  rw [cellBytes, hcolour]

/-- A row has the bytes of its cells. -/
theorem length_rowBytes (hy : y < c.extent.height) :
    (c.rowBytes y).length = c.extent.width * 3 := by
  refine length_flatMap_range fun x hx => ?_
  obtain ⟨colour, -, hbytes⟩ := exists_colour hx hy
  rw [hbytes]
  rfl

/-- The picture on a canvas shows it. -/
theorem shows_picture (c : Canvas α) : c.picture.Shows c where
  width := rfl
  height := rfl
  size := by
    have hrows : c.extent.filledRows * c.extent.width = c.extent.width * c.extent.height := by
      unfold Extent.filledRows
      split
      · next h => rw [h, Nat.zero_mul, Nat.zero_mul]
      · exact Nat.mul_comm ..
    have hlength : ∀ r < c.extent.filledRows,
        (c.rowBytes (c.extent.filledRows - 1 - r)).length = c.extent.width * 3 := by
      intro r hr
      refine length_rowBytes ?_
      unfold Extent.filledRows at hr ⊢
      split at hr
      · exact absurd hr (Nat.not_lt_zero r)
      · next h => rw [if_neg h]; omega
    show c.picture.bytes.data.size = _
    rw [← Array.length_toList, toList_bytes_picture, length_flatMap_range hlength,
      ← Nat.mul_assoc, hrows, Nat.mul_comm]
  cell x y hx hy := by
    have hrows : c.extent.filledRows = c.extent.height := if_neg (Nat.ne_zero_of_lt hx)
    have hlength : ∀ r < c.extent.height,
        (c.rowBytes (c.extent.height - 1 - r)).length = c.extent.width * 3 :=
      fun r hr => length_rowBytes (by omega)
    obtain ⟨colour, hcolour, hbytes⟩ := exists_colour hx hy
    refine ⟨colour, hcolour, ?_⟩
    -- a byte is found by its row, which is counted from the top, its cell and its part
    have hbyte {k : Nat} (hk : k < 3) :
        c.picture.bytes[3 * ((c.extent.height - 1 - y) * c.extent.width + x) + k]? =
          [colour.red, colour.green, colour.blue][k]? := by
      have hcells : ∀ x < c.extent.width, (c.cellBytes y x).length = 3 := by
        intro x hx
        obtain ⟨colour, -, hbytes⟩ := exists_colour hx hy
        rw [hbytes]
        rfl
      have hplace : 3 * ((c.extent.height - 1 - y) * c.extent.width + x) + k =
          (c.extent.height - 1 - y) * (c.extent.width * 3) + (x * 3 + k) := by ring
      have hrow : c.extent.height - 1 - (c.extent.height - 1 - y) = y := by omega
      rw [ByteArray.getElem?_eq_toList, toList_bytes_picture, hrows, hplace,
        getElem?_flatMap_range hlength (by omega) (by omega), hrow, rowBytes,
        getElem?_flatMap_range hcells hx hk, hbytes]
    exact ⟨hbyte (k := 0) (by decide), hbyte (k := 1) (by decide), hbyte (k := 2) (by decide)⟩

end Canvas

end SceneScript
