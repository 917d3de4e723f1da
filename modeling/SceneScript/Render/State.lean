import SceneScript.Raster.Draw
import SceneScript.Render.Note
import SceneScript.Space.Solid
import SceneScript.Space.ScopeStack

/-!
# Rendering as a state

What a run works on: the coordinate systems, the knobs, the canvas and the output, and beside them
what can be told of the run so far: the files it saved, the calls that drew, and its log. A step
of a run (`Render`) either gives a result or stops at a fault, and in both cases leaves a state.
-/

namespace SceneScript

/-- How a scene is rendered. -/
structure Settings (α : Type) where
  width : Int := 500
  height : Int := 500
  step : Int := 20
  background : Rgb.Parts := .ofRgb .white
  lineColour : Rgb.Parts := .ofRgb .black
  surface : Surface α
  frameDuration : Int := 20

/-- The kinds of items that are drawn. -/
inductive ItemKind
  | triangles | segments
  deriving Repr, DecidableEq, Inhabited

/-- A call that drew: the points it was given and the number of items it drew. -/
structure DrawCall (α : Type) where
  kind : ItemKind
  points : List (Vec4 α)
  drawn : Nat

/-- The state of a run. -/
structure RenderState (α σ : Type) where
  stack : ScopeStack α
  knobs : Knobs α
  canvas : Canvas α
  output : σ
  saved : Array String := #[]
  draws : Array (DrawCall α) := #[]
  notes : Array (Note α) := #[]

/-- A step of a run. -/
abbrev Render (α σ : Type) := EStateM Fault (RenderState α σ)

namespace Render

variable {α σ β : Type}

/-- Adds notes to the log. -/
def note (ns : List (Note α)) : Render α σ Unit :=
  modify fun s => { s with notes := s.notes ++ ns.toArray }

/-- Hands a request to the output. -/
def ask (request : σ → Reply σ β) : Render α σ β := fun s =>
  let r := request s.output
  let s := { s with output := r.state, notes := s.notes ++ (r.written.map Note.wrote).toArray }
  match r.result with
  | .ok b => .ok b s
  | .error fault => .error fault s

/-- Puts a drawing on the canvas. A call that stops at a fault is not told. -/
def draw [Scalar α] (kind : ItemKind) (points : List (Vec4 α))
    (drawing : Extent → List (Vec4 α) → Drawing α) : Render α σ Unit := fun s =>
  let d := drawing s.canvas.extent points
  let s := { s with canvas := s.canvas.paint d.fragments }
  match d.outcome with
  | .ok n => .ok () { s with draws := s.draws.push ⟨kind, points, n⟩ }
  | .error fault => .error fault s

end Render

end SceneScript
