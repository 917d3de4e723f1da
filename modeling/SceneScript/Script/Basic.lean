import SceneScript.Render.Note
import SceneScript.Script.Statement
import SceneScript.Text.Lines

/-!
# Scripts

A script is a text with a statement on each line. Two slashes begin a comment, which goes on to the
end of its line. The operations of a script are those of its statements in order (`operations`), and
its knobs are what the statements make of none (`knobs`).
-/

namespace SceneScript

/-- A line without its comment. -/
def withoutComment : List Char → List Char
  | '/' :: '/' :: _ => []
  | c :: rest => c :: withoutComment rest
  | [] => []

/-- The statement on a line. -/
def Statement.ofLine (line : List Char) : Except LineFault Statement :=
  ofWords (Text.words (withoutComment line))

/-- The statements on lines of which the first has the given number. The first line that has none
is at fault. -/
def statementsFrom (number : Nat) : List (List Char) → Except Fault (List Statement)
  | [] => .ok []
  | line :: rest =>
    match Statement.ofLine line with
    | .error why => .error (.badLine number why)
    | .ok s => (statementsFrom (number + 1) rest).map (s :: ·)

/-- A compiled script. -/
structure Script where
  operations : List (Operation Float)
  knobs : Knobs Float

namespace Script

/-- The script that statements make. -/
def ofStatements (ss : List Statement) : Script :=
  ⟨ss.filterMap Statement.operation?, ss.foldl (fun knobs s => s.apply knobs) .empty⟩

/-- The script that a text is. -/
def ofText (text : String) : Except Fault Script :=
  (statementsFrom 1 (Text.lines text.toList)).map ofStatements

/-- What is told of a compiled script. -/
def note (s : Script) : Note Float := .parsed s.operations.length s.knobs.size

end Script

end SceneScript
