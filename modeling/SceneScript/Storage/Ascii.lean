import SceneScript.Storage.Reading
import SceneScript.Text.Numeral

/-!
# Text in heads

The heads of some formats are text, and so are the pixels of a few. Their bytes are taken as they
are: words between blanks, lines between breaks, and numbers in decimal digits.
-/

namespace SceneScript.Ascii

/-- Whether a byte separates words. -/
def isBlank (b : UInt8) : Bool := b == 0x20 || (0x09 ≤ b && b ≤ 0x0d)

/-- Whether a byte ends a line. -/
def isBreak (b : UInt8) : Bool := b == 0x0a || b == 0x0d

/-- The natural number that decimal digits stand for, given the value of those in front and whether
a digit stands last there. Single underscores may stand between digits. -/
def natural? (n : Nat) (digit : Bool) : List UInt8 → Option Nat
  | [] => if digit then some n else none
  | b :: rest =>
    if 0x30 ≤ b && b ≤ 0x39 then natural? (10 * n + (b.toNat - 0x30)) true rest
    else if b == 0x5f && digit then natural? n false rest
    else none

/-- The bytes without the blanks at both ends. -/
def trim (bs : List UInt8) : List UInt8 :=
  ((bs.dropWhile isBlank).reverse.dropWhile isBlank).reverse

/-- The integer that a word stands for, with at most one sign in front. Blanks around it do not
count. -/
def integer (bs : List UInt8) : Except ImageFault Int :=
  let (negative, digits) := match trim bs with
    | 0x2d :: rest => (true, rest)
    | 0x2b :: rest => (false, rest)
    | _ => (false, bs)
  match natural? 0 false digits with
  | some n => .ok (if negative then -n else n)
  | none => .error (.notNumber bs)

/-- The double that a word stands for. -/
def fraction (bs : List UInt8) : Except ImageFault Float :=
  let plain := bs.all fun b => 0x20 < b && b < 0x7f
  let word := String.ofList (bs.map fun b => Char.ofNat b.toNat)
  match if plain then Text.Numeral.ofString? word else none with
  | some n => .ok n.toFloat
  | none => .error (.notFraction bs)

/-- The words of bytes, given the word so far, its last byte first. -/
def words (word : List UInt8) : List UInt8 → List (List UInt8)
  | [] => if word.isEmpty then [] else [word.reverse]
  | b :: rest =>
    if isBlank b then
      if word.isEmpty then words [] rest else word.reverse :: words [] rest
    else words (b :: word) rest

/-- The line at an offset, with its break, and the offset after it. -/
def line (data : ByteArray) (offset : Nat) : List UInt8 × Nat :=
  let rest := (data.extract offset data.size).toList
  let front := rest.takeWhile (· != 0x0a)
  let size := min rest.length (front.length + 1)
  (rest.take size, offset + size)

/-- The bytes of a text. -/
def ofString (text : String) : List UInt8 := text.toUTF8.toList

/-- A line without the break at its end. -/
def withoutBreak (line : List UInt8) : List UInt8 :=
  match line.reverse with
  | 0x0a :: 0x0d :: front | 0x0a :: front => front.reverse
  | _ => line

/-- The texts between the bytes that are marks, empty ones included. -/
def splitMarks (isMark : UInt8 → Bool) : List UInt8 → List (List UInt8)
  | [] => [[]]
  | b :: rest =>
    if isMark b then [] :: splitMarks isMark rest
    else
      match splitMarks isMark rest with
      | [] => [[b]]
      | first :: more => (b :: first) :: more

/-- What stands behind the given bytes, if a text begins with them. -/
def after? (start text : List UInt8) : Option (List UInt8) :=
  if start.isPrefixOf text then some (text.drop start.length) else none

/-- Whether a byte is a space or a tabulator. -/
def isSpace (b : UInt8) : Bool := b == 0x20 || b == 0x09

/-- Whether a byte is a letter of the alphabet. -/
def isLetter (b : UInt8) : Bool := (0x41 ≤ b && b ≤ 0x5a) || (0x61 ≤ b && b ≤ 0x7a)

/-- Whether a byte is a decimal digit. -/
def isDigit (b : UInt8) : Bool := 0x30 ≤ b && b ≤ 0x39

end SceneScript.Ascii
