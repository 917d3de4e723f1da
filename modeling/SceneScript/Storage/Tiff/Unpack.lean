import SceneScript.Storage.Deflate

/-!
# Packed strips

The ways in which the strips of a tagged image are packed: in runs, with a dictionary of strings, or
deflated. A predictor leaves only the differences of neighbours.
-/

namespace SceneScript.Tiff

/-- The bytes that runs stand for, from an offset on, at most so many. A count is followed by as
many bytes, or by one that is repeated. -/
def runs (data : ByteArray) (count : Nat) : Nat → Nat → ByteArray → ByteArray
  | 0, _, out => out
  | fuel + 1, offset, out =>
    if count ≤ out.size then out
    else
      match data[offset]? with
      | none => out
      | some mark =>
        if mark = 128 then runs data count fuel (offset + 1) out
        else if 128 < mark then
          let value := UInt8.ofNat (Bytes.byteAt data (offset + 1))
          runs data count fuel (offset + 2)
            ((257 - mark.toNat).fold (fun _ _ out => out.push value) out)
        else
          let stop := offset + 2 + mark.toNat
          runs data count fuel stop (out ++ data.extract (offset + 1) stop)

/-- The code of so many bits that begins with a bit, the highest bits first. -/
def codeAt (data : ByteArray) (bit size : Nat) : Nat :=
  (Bytes.highAt data (bit / 8) 3 >>> (24 - bit % 8 - size)) % (1 <<< size)

/-- The strings of a dictionary behind those of single bytes. -/
abbrev Strings := Array ByteArray

/-- The string of a code, if there is one. The first two codes behind the bytes are none. -/
def string? (strings : Strings) (code : Nat) : Option ByteArray :=
  if code < 256 then some (ByteArray.empty.push (UInt8.ofNat code)) else strings[code - 258]?

/-- The bits of the next code, which grow one string too early. -/
def codeSize (strings : Strings) : Nat :=
  let next := strings.size + 259
  if 2048 ≤ next then 12 else if 1024 ≤ next then 11 else if 512 ≤ next then 10 else 9

/-- The bytes of codes from a bit on, given the last string, until there are so many. A code of its
own clears the dictionary, and another one ends the codes. -/
def codes (data : ByteArray) (count : Nat) :
    Nat → Nat → Strings → Option ByteArray → ByteArray → Option ByteArray
  | 0, _, _, _, out => some out
  | fuel + 1, bit, strings, last, out =>
    let size := codeSize strings
    if count ≤ out.size then some out
    else if 8 * data.size < bit + size then none
    else
      let code := codeAt data bit size
      let bit := bit + size
      if code = 256 then codes data count fuel bit #[] none out
      else if code = 257 then some out
      else
        match last with
        | none =>
          (string? #[] code).bind fun s => codes data count fuel bit strings (some s) (out ++ s)
        | some l =>
          match string? strings code with
          | some s =>
            codes data count fuel bit (strings.push (l.push ((s[0]?).getD 0))) (some s) (out ++ s)
          | none =>
            if code ≠ strings.size + 258 then none
            else
              let s := l.push ((l[0]?).getD 0)
              codes data count fuel bit (strings.push s) (some s) (out ++ s)

/-- The rows without the predictor, which is the pixel before, of so many bytes. -/
def withoutPredictor (rows : ByteArray) (row pixel : Nat) : ByteArray :=
  rows.size.fold (fun i _ out =>
    let before := if i % row < pixel then 0 else (out[i - pixel]?).getD 0
    out.push ((rows[i]?).getD 0 + before)) .empty

/-- The bytes of a strip that is packed in the given way, of which there must be so many. Of a way
that is not known here, the bytes are taken as they are. -/
def unpack? (method : Nat) (data : ByteArray) (count : Nat) : Option ByteArray :=
  let whole (out : ByteArray) : Option ByteArray :=
    if out.size < count then none else some (out.extract 0 count)
  match method with
  | 5 => (codes data count (8 * data.size + 1) 0 #[] none .empty).bind whole
  | 8 | 32946 => whole (Deflate.inflate data).output
  | 32773 => whole (runs data count (data.size + 1) 0 .empty)
  | _ => if data.isEmpty then none else some (data ++ Bytes.zeros (count - data.size))

end SceneScript.Tiff
