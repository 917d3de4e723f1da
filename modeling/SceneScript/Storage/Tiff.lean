import SceneScript.Storage.Rows

/-!
# Tagged images

A head that says where the directory is, and a directory of entries, each a number, a type, a count
and values, or where the values are. Pictures are written with their directory in front and their
pixels as they are.
-/

namespace SceneScript.Tiff

/-! ## Writing -/

/-- An entry of the directory of a tagged image. Words have two bytes, and long words four. -/
def entry (number : Nat) (long : Bool) (count value : Nat) : List UInt8 :=
  Bytes.low 2 number ++ Bytes.low 2 (if long then 4 else 3) ++ Bytes.low 4 count ++
    Bytes.low 4 value

/-- The head of a tagged image: its directory, and the bits of the three parts of a pixel. -/
def head (p : Picture) : ByteArray :=
  "II*".toUTF8 ++ Bytes.ofList ([0] ++ Bytes.low 4 8 ++ Bytes.low 2 10 ++
    entry 256 true 1 p.width ++ entry 257 true 1 p.height ++ entry 258 false 3 134 ++
    entry 259 false 1 1 ++ entry 262 false 1 2 ++ entry 273 true 1 140 ++ entry 277 false 1 3 ++
    entry 278 true 1 p.height ++ entry 279 true 1 p.bytes.size ++ entry 284 false 1 1 ++
    Bytes.low 4 0 ++ Bytes.low 2 8 ++ Bytes.low 2 8 ++ Bytes.low 2 8)

/-- A picture in bytes. -/
def encode (p : Picture) : ByteArray := head p ++ p.bytes

/-! ## The directory -/

/-- The entries of a directory: their numbers, their types and their values. -/
structure Directory where
  highFirst : Bool
  /-- Whether all entries are in the data. -/
  isWhole : Bool
  entries : List (Nat × Nat × List Nat)

/-- The bytes of a value of the given type. Other types are passed over. -/
def valueSize? (type : Nat) : Option Nat :=
  if [1, 2, 6, 7].contains type then some 1
  else if [3, 8].contains type then some 2
  else if [4, 9, 11, 13].contains type then some 4
  else if [5, 10, 12, 16].contains type then some 8
  else none

/-- The number of so many bytes at an offset. -/
def numberAt (data : ByteArray) (highFirst : Bool) (offset size : Nat) : Nat :=
  if highFirst then Bytes.highAt data offset size else Bytes.lowAt data offset size

/-- The entries of a directory from an offset on, the last one first, so that of two with one number
the last one counts. What cannot be read ends the directory. -/
def entries (data : ByteArray) (highFirst : Bool) :
    Nat → Nat → List (Nat × Nat × List Nat) → List (Nat × Nat × List Nat)
  | 0, _, sofar => sofar
  | count + 1, offset, sofar =>
    if data.size < offset + 12 then sofar
    else
      let number (offset size : Nat) : Nat := numberAt data highFirst offset size
      let (type, found) := (number (offset + 2) 2, number (offset + 4) 4)
      match valueSize? type with
      | none => entries data highFirst count (offset + 12) sofar
      | some size =>
        let start := if 4 < size * found then number (offset + 8) 4 else offset + 8
        if 4 < size * found ∧ data.size < start + size * found then sofar
        else if found = 0 then entries data highFirst count (offset + 12) sofar
        else
          let values := (List.range found).map fun k => number (start + size * k) size
          entries data highFirst count (offset + 12) ((number offset 2, type, values) :: sofar)

/-- The first directory of a tagged image, if the data are one. -/
def directory? (data : ByteArray) : Option Directory :=
  let mark := (data.extract 0 4).toList
  let marks := [[0x4d, 0x4d, 0, 42], [0x4d, 0x4d, 42, 0]]
  let highFirst := marks.contains mark
  if !highFirst && !([[0x49, 0x49, 42, 0], [0x49, 0x49, 0, 42]].contains mark) || data.size < 8 then
    none
  else
    let start := numberAt data highFirst 4 4
    if start = 0 then none
    else
      let count := if data.size < start + 2 then 0 else numberAt data highFirst start 2
      some ⟨highFirst, start + 2 + 12 * count ≤ data.size,
        entries data highFirst count (start + 2) []⟩

namespace Directory

/-- The values with a number. -/
def values? (d : Directory) (number : Nat) : Option (List Nat) :=
  (d.entries.lookup number).map (·.2)

/-- The first value with a number, or what it is if it is missing. -/
def value (d : Directory) (number missing : Nat) : Nat :=
  ((d.values? number).bind List.head?).getD missing

/-- Whether there is a value with a number that is an integer. -/
def isInteger (d : Directory) (number : Nat) : Bool :=
  match d.entries.lookup number with
  | some (type, [_]) => [3, 4, 8, 9, 13, 16].contains type
  | _ => false

end Directory

end SceneScript.Tiff
