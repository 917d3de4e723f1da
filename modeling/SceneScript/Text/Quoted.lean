import SceneScript.Text.Printable

/-!
# Quoted text

A text as a message shows it: between single quotes, or between double quotes when it holds a
single quote and no double one. The quote itself, the backslash and all that is not printable are
escaped. Bytes are shown in the same way after the letter `b`, and those beyond ASCII are escaped.
-/

namespace SceneScript.Text

/-- A number in hexadecimal digits, with zeros in front up to the given width. -/
def hex (width n : Nat) : List Char :=
  let ds := Nat.toDigits 16 n
  List.replicate (width - ds.length) '0' ++ ds

/-- A character by its number, in as few digits as are enough for it. -/
def numbered (c : Char) : List Char :=
  if c.toNat < 0x100 then ['\\', 'x'] ++ hex 2 c.toNat
  else if c.toNat < 0x10000 then ['\\', 'u'] ++ hex 4 c.toNat
  else ['\\', 'U'] ++ hex 8 c.toNat

/-- A character between the given quotes. -/
def escape (quote c : Char) : List Char :=
  if c == quote || c == '\\' then ['\\', c]
  else if c == '\n' then ['\\', 'n']
  else if c == '\r' then ['\\', 'r']
  else if c == '\t' then ['\\', 't']
  else if isPrintable c then [c]
  else numbered c

/-- The quote that a text is put in. -/
def quoteOf (text : List Char) : Char :=
  if text.contains '\'' && !text.contains '"' then '"' else '\''

/-- A text between quotes. -/
def quoted (text : String) : String :=
  let cs := text.toList
  let quote := quoteOf cs
  String.ofList (quote :: cs.flatMap (escape quote) ++ [quote])

/-- A byte between the given quotes. -/
def escapeByte (quote : Char) (b : UInt8) : List Char :=
  if b < 0x80 then escape quote (Char.ofNat b.toNat) else ['\\', 'x'] ++ hex 2 b.toNat

/-- Bytes between quotes. -/
def quotedBytes (bytes : List UInt8) : String :=
  let quote := quoteOf (bytes.map fun b => Char.ofNat b.toNat)
  String.ofList (['b', quote] ++ bytes.flatMap (escapeByte quote) ++ [quote])

end SceneScript.Text
