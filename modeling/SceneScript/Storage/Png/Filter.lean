import SceneScript.Storage.Bytes

/-!
# The filters of graphics

Each row of a graphic is held as what its bytes differ by from a prediction, and the number of the
filter says how they are predicted from the bytes to the left and in the row above. `Png.unfilter`
takes back what `Png.filtered` does, and `Png.smallest` finds the filter that leaves least.
-/

namespace SceneScript.Png

/-- The one of three bytes nearest to the sum of the first two less the third. -/
def paeth (left above corner : Nat) : Nat :=
  let estimate : Int := (left : Int) + above - corner
  let distance (n : Nat) : Nat := (estimate - n).natAbs
  if distance left ≤ distance above ∧ distance left ≤ distance corner then left
  else if distance above ≤ distance corner then above
  else corner

/-- What a filter adds to a byte. -/
def prediction (filter left above corner : Nat) : Nat :=
  match filter with
  | 1 => left
  | 2 => above
  | 3 => (left + above) / 2
  | 4 => paeth left above corner
  | _ => 0

/-- A row without its filter, given the row above it and the number of bytes of a pixel. -/
def unfilter (filter step : Nat) (above row : ByteArray) : ByteArray :=
  row.size.fold (fun i _ out =>
    let left := if i < step then 0 else Bytes.byteAt out (i - step)
    let corner := if i < step then 0 else Bytes.byteAt above (i - step)
    out.push (UInt8.ofNat
      (Bytes.byteAt row i + prediction filter left (Bytes.byteAt above i) corner))) .empty

/-- What a filter leaves of a row, given the row above it and the number of bytes of a pixel. -/
def filtered (filter step : Nat) (above row : ByteArray) : ByteArray :=
  row.size.fold (fun i _ out =>
    let left := if i < step then 0 else Bytes.byteAt row (i - step)
    let corner := if i < step then 0 else Bytes.byteAt above (i - step)
    let predicted := prediction filter left (Bytes.byteAt above i) corner
    out.push (UInt8.ofNat (Bytes.byteAt row i + 256 - predicted))) .empty

/-- How far the bytes of a row are from zero, taken together. Bytes of 128 and more count as
negative. -/
def size (row : ByteArray) : Nat := row.foldl (fun n b => n + min b.toNat (256 - b.toNat)) 0

/-- The number of the filter that leaves least of a row, the first of those that leave as much, and
what it leaves. The row may be left as it is. -/
def smallest (step : Nat) (above row : ByteArray) : Nat × ByteArray :=
  ([2, 1, 4].foldl (fun (found : Nat × Nat × ByteArray) filter =>
    if found.1 = 0 then found
    else
      let left := filtered filter step above row
      if size left < found.1 then (size left, filter, left) else found) (size row, 0, row)).2

end SceneScript.Png
