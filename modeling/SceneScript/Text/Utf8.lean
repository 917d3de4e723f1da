import SceneScript.Fault

/-!
# Reading bytes as text

UTF-8, with the place and the reason of the first bytes that are not. A character begins with a byte
that says how many continuation bytes follow. Of those that cannot begin one are the continuation
bytes, the two that would only encode ASCII, and those beyond the last code point. The range of the
second byte keeps out spellings that are too long, surrogates, and code points that are too large.
-/

namespace SceneScript.Text

/-- Whether a byte continues a character. -/
def isContinuation (b : UInt8) : Bool := 0x80 ≤ b && b < 0xc0

/-- Whether a byte can stand second in a character that begins with `first`. -/
def isSecond (first b : UInt8) : Bool :=
  isContinuation b &&
  (first != 0xe0 || 0xa0 ≤ b) && (first != 0xed || b < 0xa0) &&
  (first != 0xf0 || 0x90 ≤ b) && (first != 0xf4 || b < 0x90)

/-- The number of bytes of a character that begins with `first`, if one can. -/
def sizeOf? (first : UInt8) : Option Nat :=
  if first < 0x80 then some 1
  else if first < 0xc2 then none
  else if first < 0xe0 then some 2
  else if first < 0xf0 then some 3
  else if first < 0xf5 then some 4
  else none

/-- The bits that a byte adds to a code point. -/
def payload (b : UInt8) : Nat := b.toNat % 64

/-- The bits of the code point in the first of `size` bytes. -/
def leading (first : UInt8) (size : Nat) : Nat :=
  if size = 1 then first.toNat else first.toNat % 1 <<< (7 - size)

/-- The number of the bytes after `first` that fit, of at most `size - 1`. -/
def fitting (first : UInt8) (size : Nat) (rest : List UInt8) : Nat :=
  match rest.take (size - 1) with
  | [] => 0
  | b :: more => if isSecond first b then 1 + (more.takeWhile isContinuation).length else 0

/-- The character at the front of bytes, with its number of bytes, or what is wrong there and with
how many bytes. -/
def charAt (first : UInt8) (rest : List UInt8) : Except (ByteFault × Nat) (Char × Nat) :=
  match sizeOf? first with
  | none => .error (.badStart, 1)
  | some size =>
    let n := fitting first size rest
    if n + 1 = size then
      .ok (Char.ofNat ((rest.take n).foldl (fun c b => c * 64 + payload b) (leading first size)),
        size)
    else if rest.length = n then .error (.cutShort, n + 1)
    else .error (.badContinuation, n + 1)

/-- The text of bytes from a position on, after so many bytes that belong to the character before,
and after the characters so far, last one first. -/
def decodeFrom (position skip : Nat) (before : List Char) : List UInt8 → Except Fault (List Char)
  | [] => .ok before.reverse
  | b :: rest =>
    match skip with
    | skip + 1 => decodeFrom (position + 1) skip before rest
    | 0 =>
      match charAt b rest with
      | .ok (c, size) => decodeFrom (position + 1) (size - 1) (c :: before) rest
      | .error (why, size) => .error (.undecodable b position (position + size) why)

/-- The text that bytes are in UTF-8. -/
def decode (bytes : ByteArray) : Except Fault String :=
  (decodeFrom 0 0 [] bytes.toList).map String.ofList

end SceneScript.Text
