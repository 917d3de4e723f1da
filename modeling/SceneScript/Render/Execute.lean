import SceneScript.Render.State

/-!
# Executing operations

Each operation acts on the state of a run. Transforms change the top of the stack, shapes are drawn
in the coordinates of the top and change nothing but the canvas, and `save` and `display` hand the
canvas to the output. The directives of an animation do nothing here.
-/

namespace SceneScript

/-- The factor that a transform's operands are multiplied by, if it names a knob. -/
def Knobs.factor {α : Type} (k : Knobs α) : Option String → Except Fault (Option α)
  | none => .ok none
  | some name => (k.lookup name).map some

/-- An operand with its factor, and as it stands if there is none. -/
def resolved {α : Type} [Scalar α] (factor : Option α) (v : α) : α :=
  match factor with
  | none => v
  | some f => v * f

namespace Render

variable {α σ : Type} [Scalar α] [Trig α]

/-- Changes the top of the stack. -/
def transform (m : Transform α) : Render α σ Unit :=
  modify fun s => { s with stack := s.stack.apply m }

/-- Closes a scope. -/
def closeScope : Render α σ Unit := fun s =>
  let (popped, stack) := s.stack.pop
  match popped with
  | .ok _ => .ok () { s with stack }
  | .error fault => .error fault { s with stack }

/-- The factor of a transform. -/
def factor (knob : Option String) : Render α σ (Option α) := fun s =>
  match s.knobs.factor knob with
  | .ok f => .ok f s
  | .error fault => .error fault s

/-- Draws a solid in the coordinates of the top. -/
def solid (settings : Settings α) (mesh : Mesh α) : Render α σ Unit := do
  let top ← modifyGet fun s => (s.stack.top, s)
  draw .triangles (mesh.transformed top) fun e points => drawTriangles e settings.surface points

/-- Draws line segments in the coordinates of the top. -/
def edges (settings : Settings α) (segments : Edges α) : Render α σ Unit := do
  let top ← modifyGet fun s => (s.stack.top, s)
  draw .segments (segments.transformed top) fun e points =>
    drawInked e settings.lineColour points

/-- The picture on the canvas. -/
def picture : Render α σ Picture := modifyGet fun s => (s.canvas.picture, s)

/-- Saves the picture on the canvas to a file that the script names. A fault of the value is the
operand's. -/
def save (out : Output σ) (file : String) : Render α σ Unit := do
  let p ← picture
  let path ← ask fun o =>
    (out.save p file o).mapFault fun f => if f.isValueFault then .cannotSave file f else f
  modify fun s => { s with saved := s.saved.push path }

/-- Executes an operation. -/
def perform [Machine] (settings : Settings α) (out : Output σ) : Operation α → Render α σ Unit
  | .push => modify fun s => { s with stack := s.stack.push }
  | .pop => closeScope
  | .move offset knob => do
    let f ← factor knob
    let v := offset.map (resolved f)
    note [.moved v knob]
    transform (.translation v)
  | .scale factors knob => do
    let f ← factor knob
    let v := factors.map (resolved f)
    note [.scaled v knob]
    transform (.scaling v)
  | .rotate axis degrees knob => do
    let f ← factor knob
    let angle := resolved f degrees
    note [.rotated axis angle knob]
    transform (← ofExcept (Transform.rotationByDegrees axis angle))
  | .box corner size => solid settings (Box.mesh corner size)
  | .sphere centre radius => do
    solid settings (← ofExcept (Sphere.ofStep centre radius settings.step))
  | .torus centre tube ring => do
    solid settings (← ofExcept (Torus.ofStep centre tube ring settings.step))
  | .line start stop => edges settings (.segment start stop)
  | .save file => save out file
  | .display => do
    let p ← picture
    ask (out.display p)
  | .frames _ | .basename _ | .vary _ => pure ()

/-- Executes operations in order. -/
def execute [Machine] (settings : Settings α) (out : Output σ) (ops : List (Operation α)) :
    Render α σ Unit :=
  ops.forM (perform settings out)

/-- Gives knobs the values of a frame. -/
def bindKnobs (bindings : Knobs α) : Render α σ Unit :=
  modify fun s => { s with knobs := s.knobs.merge bindings }

/-- The coordinate system of the screen alone, and an empty canvas. -/
def reset : Render α σ Unit :=
  modify fun s => { s with stack := .initial, canvas := s.canvas.clear }

end Render

end SceneScript
