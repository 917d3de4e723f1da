import SceneScript.Text.Lower

/-!
# Keywords

The commands of the language. They may be written in either case (`Keyword.ofWord?`).
-/

namespace SceneScript

/-- The first word of a line. -/
inductive Keyword
  | push | pop | move | scale | rotate | box | sphere | torus | line
  | save | display | frames | basename | vary | set | setknobs
  deriving Repr, DecidableEq, Inhabited

namespace Keyword

/-- A keyword as it is written in lower case. -/
def name : Keyword → String
  | push => "push"
  | pop => "pop"
  | move => "move"
  | scale => "scale"
  | rotate => "rotate"
  | box => "box"
  | sphere => "sphere"
  | torus => "torus"
  | line => "line"
  | save => "save"
  | display => "display"
  | frames => "frames"
  | basename => "basename"
  | vary => "vary"
  | set => "set"
  | setknobs => "setknobs"

/-- Every keyword. -/
def all : List Keyword :=
  [push, pop, move, scale, rotate, box, sphere, torus, line, save, display, frames, basename, vary,
    set, setknobs]

/-- The keyword that a word is, in either case. -/
def ofWord? (word : String) : Option Keyword :=
  let name := Text.lower word
  all.find? (·.name == name)

end Keyword

end SceneScript
