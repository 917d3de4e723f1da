/-!
# Lines and words

A text is cut into lines at the line boundaries of Unicode (`lines`), a line into words at its
blanks (`words`). A boundary ends the line before it: a text that ends with one has no empty line
after it. A carriage return and the line feed after it are one boundary.
-/

namespace SceneScript.Text

/-- The characters that end a line. -/
def isLineBreak (c : Char) : Bool :=
  c == '\n' || c == '\r' || c == '\x0b' || c == '\x0c' || c == '\x1c' || c == '\x1d' ||
  c == '\x1e' || c == '\u0085' || c == '\u2028' || c == '\u2029'

/-- The characters that separate words: the line breaks, the other separators of Unicode and the
tabulator. -/
def isBlank (c : Char) : Bool :=
  isLineBreak c || c == ' ' || c == '\t' || c == '\x1f' || c == '\u00a0' || c == '\u1680' ||
  ('\u2000' ≤ c && c ≤ '\u200a') || c == '\u202f' || c == '\u205f' || c == '\u3000'

/-- The lines of a text that continues a line begun with the given characters, last one first. -/
def linesFrom (begun : List Char) : List Char → List (List Char)
  | [] => if begun.isEmpty then [] else [begun.reverse]
  | '\r' :: '\n' :: rest => begun.reverse :: linesFrom [] rest
  | c :: rest =>
    if isLineBreak c then begun.reverse :: linesFrom [] rest else linesFrom (c :: begun) rest

/-- The lines of a text, without the characters that end them. -/
def lines (text : List Char) : List (List Char) := linesFrom [] text

/-- The words of a line that continues a word begun with the given characters, last one first. -/
def wordsFrom (begun : List Char) : List Char → List String
  | [] => if begun.isEmpty then [] else [String.ofList begun.reverse]
  | c :: rest =>
    if isBlank c then
      if begun.isEmpty then wordsFrom [] rest
      else String.ofList begun.reverse :: wordsFrom [] rest
    else wordsFrom (c :: begun) rest

/-- The words of a line. -/
def words (line : List Char) : List String := wordsFrom [] line

end SceneScript.Text
