import SceneScript.Storage.Ascii
import SceneScript.Storage.Reading
import SceneScript.Text.Quoted

/-!
# Page descriptions

A program that draws the picture, with its pixels in hexadecimal. What the comments in front say is
read (`Eps.decode`), but to draw it another program would be needed.
-/

namespace SceneScript.Eps

open Ascii

/-! ## Writing -/

/-- The head of a page description. -/
def head (p : Picture) : ByteArray :=
  let (w, h) := (toString p.width, toString p.height)
  ("%!PS-Adobe-3.0 EPSF-3.0\n%%Creator: PIL 0.1 EpsEncode\n%%BoundingBox: 0 0 " ++ w ++ " " ++ h ++
    "\n%%Pages: 1\n%%EndComments\n%%Page: 1 1\n%ImageData: " ++ w ++ " " ++ h ++
    " 8 3 0 1 1 \"false 3 colorimage\"\ngsave\n10 dict begin\n/buf " ++ toString (3 * p.width) ++
    " string def\n" ++ w ++ " " ++ h ++ " scale\n" ++ w ++ " " ++ h ++ " 8\n[" ++ w ++ " 0 0 -" ++
    h ++ " 0 " ++ h ++ "]\n\x7b currentfile buf readhexstring pop \x7d bind\n" ++
    "false 3 colorimage\n").toUTF8

/-- The pixels of a page description in hexadecimal, in lines of 39 bytes, and its end. -/
def rows (p : Picture) : ByteArray :=
  let digits := p.bytes.size.fold (fun i _ out =>
    let pair := Text.hex 2 (p.bytes[i]?.getD 0).toNat
    let out := pair.foldl (fun out c => out.push (UInt8.ofNat c.toNat)) out
    if i % 39 = 38 ∧ i + 1 < p.bytes.size then out.push 10 else out) ByteArray.empty
  digits ++ "\n%%%%EndBinary\ngrestore end\n".toUTF8

/-- A picture in bytes. -/
def encode (p : Picture) : ByteArray := head p ++ rows p

/-! ## Reading -/

/-- What the comments say: whether the name of the format and the box around the page are there, the
box itself, and whether the head and the body are behind. -/
structure Comments where
  named : Bool := false
  hasBox : Bool := false
  box : Option (Int × Int × Int × Int) := none
  size : Option (Int × Int) := none
  atEnd : Bool := false
  inHead : Bool := true
  inFoot : Bool := false
  isOver : Bool := false

/-- The key and the value of a comment. -/
def comment? (line : List UInt8) : Option (List UInt8 × List UInt8) := do
  let rest ← after? (ofString "%%") line
  let key := rest.takeWhile (· != 0x3a)
  if key.length = rest.length then none
  else some (key, (rest.drop (key.length + 1)).dropWhile isSpace)

/-- A number without its fraction. -/
def whole? (word : List UInt8) : Option Int :=
  (fraction word).toOption.bind fun x =>
    if (Binary64.ofFloat x).isFinite then some x.toInt64.toInt else none

/-- The box that a value gives, if it has four numbers. -/
def box? (value : List UInt8) : Option (Int × Int × Int × Int) := do
  match ← (words [] value).mapM whole? with
  | [a, b, c, d] => some (a, b, c, d)
  | _ => none

/-- The comments with one more. -/
def Comments.add (s : Comments) (key value : List UInt8) : Comments :=
  if key == ofString "BoundingBox" then
    let s := { s with hasBox := true }
    if value == ofString "(atend)" then { s with atEnd := true }
    else if s.box.isNone || (s.inFoot && s.atEnd) then
      { s with box := (box? value).orElse fun _ => s.box }
    else s
  else { s with named := s.named || key == ofString "PS-Adobe" }

/-- Whether the comments that must be there are. -/
def Comments.check (s : Comments) : Attempt Unit := Attempt.require (s.named && s.hasBox)

/-- Whether a line is a comment with a name and no value. -/
def isField (line : List UInt8) : Bool :=
  match line with
  | 0x25 :: b :: rest =>
    (b == 0x25 || b == 0x21 || b == 0x5f || isLetter b || isDigit b) && !rest.contains 0x3a
  | _ => false

/-- The size that the description of an image gives: columns and rows of bits or of bytes. -/
def imageSize (line : List UInt8) : Except ImageFault (Option (Int × Int)) := do
  match ← ((words [] line).take 4).mapM integer with
  | [columns, rows, bits, kind] =>
    pure (if bits = 1 ∨ (bits = 8 ∧ [1, 2, 3, 4].contains kind) then some (columns, rows) else none)
  | short => throw (.missingParts short.length)

/-- The comments after one more line, behind the head. -/
def Comments.addBody (s : Comments) (line : List UInt8) : Except ImageFault Comments := do
  match after? (ofString "%ImageData:") line with
  | some rest =>
    if s.size.isSome then pure s
    else
      match ← imageSize rest with
      | some size => pure { s with size := some size }
      | none => pure { s with isOver := true }
  | none =>
    if (ofString "%%EOF").isPrefixOf line then pure { s with isOver := true }
    else if s.inFoot && s.atEnd then
      match comment? line with
      | some (key, value) => pure (s.add key value)
      | none => pure s
    else if (ofString "%%Trailer").isPrefixOf line then pure { s with inFoot := true }
    else pure s

/-- The comments after one more line. The line that ends the head goes on with the next one, so both
are given back. -/
def Comments.addLine (s : Comments) (line : List UInt8) : Attempt (Comments × List UInt8) := do
  if !s.inHead then pure (← Attempt.lift (s.addBody line), [])
  else if line.head? != some 0x25 || (ofString "%%EndComments").isPrefixOf line then
    s.check
    pure ({ s with inHead := false }, line)
  else
    match comment? line with
    | some (key, value) => pure (s.add key value, [])
    | none =>
      let key := if isField line then line.drop 2 else []
      pure ({ s with
        named := s.named || (ofString "PS-Adobe").isPrefixOf key
        hasBox := s.hasBox || key == ofString "BoundingBox" }, [])

/-- The comments in bytes, given the line so far, its last byte first. A comment that is too long
belongs to something else. -/
def read (s : Comments) (line : List UInt8) (length : Nat) : List UInt8 → Attempt Comments
  | [] => do
    let (s, _) ← if line.isEmpty then pure (s, []) else s.addLine line.reverse
    if s.inHead then s.check
    pure s
  | b :: rest => do
    if s.isOver then pure s
    else if isBreak b then
      if line.isEmpty then read s [] 0 rest
      else
        let (s, kept) ← s.addLine line.reverse
        read s kept.reverse kept.length rest
    else if 255 ≤ length then
      Attempt.require (line.getLast? != some 0x25)
      if s.inHead then s.check
      read { s with inHead := false } [b] 1 rest
    else read s (b :: line) (length + 1) rest

/-- Where a page description begins, if the data are one. It may stand behind a head of its own. -/
def start? (data : ByteArray) : Option Nat :=
  if Bytes.begins data "%!PS" then some 0
  else if Bytes.hasAt data 0 [0xc5, 0xd0, 0xd3, 0xc6] ∧ 12 ≤ data.size then
    some (Bytes.lowAt data 4 4)
  else none

/-- A page description, if the data are one. There is always a reason not to draw it. -/
def decode (data : ByteArray) : Reading := OptionT.run do
  let start ← Attempt.ofOption (start? data)
  let s ← read {} [] 0 (data.extract start data.size).toList
  let some (left, top, right, bottom) := s.box | Attempt.fault .noBoundingBox
  let (width, height) := s.size.getD (right - left, bottom - top)
  Attempt.require (0 < width && 0 < height)
  Attempt.lift (checkPixels width.toNat height.toNat)
  Attempt.fault .needsProgram

end SceneScript.Eps
