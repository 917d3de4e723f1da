import SceneScript.Decimal.Shortest
import SceneScript.Text.Quoted

/-!
# Frame counts

An operation list may come from anywhere, so the count of its `frames` operation may be any plain
value. Only an integer can be a length (`FrameCount.length?`).
-/

namespace SceneScript

/-- The operand of a `frames` operation. -/
inductive FrameCount
  | whole (n : Int)
  | truth (b : Bool)
  | number (x : Float)
  | text (s : String)
  | nothing
  deriving Repr, Inhabited

namespace FrameCount

/-- The count as a message shows it. -/
def shown : FrameCount → String
  | whole n => toString n
  | truth b => if b then "True" else "False"
  | number x => Decimal.text x
  | text s => Text.quoted s
  | nothing => "None"

/-- The integers in what a message shows. -/
def integers : FrameCount → List Int
  | whole n => [n]
  | _ => []

/-- The number of frames, if the count is one: an integer, and positive. -/
def length? : FrameCount → Option Int
  | whole n => if n < 1 then none else some n
  | _ => none

end FrameCount

end SceneScript
