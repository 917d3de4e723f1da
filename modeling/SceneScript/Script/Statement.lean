import SceneScript.Animation.Knobs
import SceneScript.Script.Operation
import SceneScript.Text.Numeral

/-!
# Statements

What one line of a script says. `Statement.ofWords` reads the words of a line; whether it accepts
them depends on nothing else. A statement adds at most one operation to the script
(`Statement.operation?`), and it may change the initial values of knobs (`Statement.apply`).

Words that are not numbers are names. A transform may end with the name of a knob. A shape may begin
with the name of its constants and end with that of a coordinate system, and each end of a line may
be followed by one; those names are read over.
-/

namespace SceneScript

open Text (isNumber number? integer?)

/-- The meaning of a line. -/
inductive Statement
  | blank
  | perform (op : Operation Float)
  | set (knob : String) (value : Float)
  | setAll (value : Float)
  deriving Inhabited

namespace Statement

/-- The doubles that a given count of words stand for. -/
def numbers (command : Keyword) (count : Nat) (ws : List String) :
    Except LineFault (Vector Float count) :=
  match ws.mapM number? with
  | some xs =>
    if h : xs.length = count then .ok ⟨xs.toArray, by simpa using h⟩
    else .error (.notNumbers command count ws)
  | none => .error (.notNumbers command count ws)

/-- Whether a list ends with a name after exactly `count` words. -/
def endsWithName (count : Nat) (ws : List String) : Bool :=
  ws.length == count + 1 && !(ws.getLast?.map isNumber).getD true

/-- Numbers, and after them at most one name, a knob. -/
def numbersWithKnob (command : Keyword) (count : Nat) (ws : List String) :
    Except LineFault (Vector Float count × Option String) :=
  if endsWithName count ws then do
    pure (← numbers command count ws.dropLast, ws.getLast?)
  else do
    pure (← numbers command count ws, none)

/-- The words after a name in front. -/
def skipName : List String → List String
  | [] => []
  | w :: ws => if isNumber w then w :: ws else ws

/-- Numbers between a name in front and a name behind, both of which may be left out. -/
def shapeNumbers (command : Keyword) (count : Nat) (ws : List String) :
    Except LineFault (Vector Float count) :=
  let ws := skipName ws
  numbers command count (if endsWithName count ws then ws.dropLast else ws)

/-- The words of a line segment without the names that may follow its ends: those in the fourth and
in the last place. -/
def withoutSystems (ws : List String) : List String :=
  (ws.zipIdx.filter fun (w, i) => isNumber w || (i != 3 && i + 1 != ws.length)).map (·.1)

/-- An integer that a word stands for. -/
def integer (command : Keyword) (w : String) : Except LineFault Int :=
  match integer? w with
  | some n => .ok n
  | none => .error (.notInteger command w)

/-- The axis that a word names. -/
def axis? (w : String) : Option Axis :=
  if w = "x" ∨ w = "X" then some .x
  else if w = "y" ∨ w = "Y" then some .y
  else if w = "z" ∨ w = "Z" then some .z
  else none

/-- A command that has no arguments. -/
def bare (command : Keyword) (op : Operation Float) (args : List String) :
    Except LineFault Statement :=
  if args.isEmpty then .ok (.perform op) else .error (.argumentsFound command)

/-- A command whose one argument is taken as it stands. -/
def verbatim (fault : LineFault) (op : String → Operation Float) (args : List String) :
    Except LineFault Statement :=
  match args with
  | [w] => .ok (.perform (op w))
  | _ => .error fault

/-- A command that moves the coordinate system by three numbers. -/
def transform (command : Keyword) (op : Vec3 Float → Option String → Operation Float)
    (args : List String) : Except LineFault Statement := do
  let (v, knob) ← numbersWithKnob command 3 args
  pure (.perform (op ⟨v[0], v[1], v[2]⟩ knob))

/-- The line `rotate AXIS DEGREES [KNOB]`. -/
def rotate (args : List String) : Except LineFault Statement :=
  match args with
  | a :: rest =>
    if rest.length = 1 ∨ rest.length = 2 then
      match axis? a with
      | none => .error (.notAxis a)
      | some axis => do
        let (v, knob) ← numbersWithKnob .rotate 1 rest
        pure (.perform (.rotate axis v[0] knob))
    else .error .rotateShape
  | [] => .error .rotateShape

/-- The line `box [NAME] X Y Z WIDTH HEIGHT DEPTH [NAME]`. -/
def box (args : List String) : Except LineFault Statement := do
  let v ← shapeNumbers .box 6 args
  pure (.perform (.box ⟨v[0], v[1], v[2]⟩ ⟨v[3], v[4], v[5]⟩))

/-- The line `sphere [NAME] X Y Z RADIUS [NAME]`. -/
def sphere (args : List String) : Except LineFault Statement := do
  let v ← shapeNumbers .sphere 4 args
  pure (.perform (.sphere ⟨v[0], v[1], v[2]⟩ v[3]))

/-- The line `torus [NAME] X Y Z TUBE RING [NAME]`. -/
def torus (args : List String) : Except LineFault Statement := do
  let v ← shapeNumbers .torus 5 args
  pure (.perform (.torus ⟨v[0], v[1], v[2]⟩ v[3] v[4]))

/-- The line `line [NAME] X Y Z [NAME] X Y Z [NAME]`. -/
def line (args : List String) : Except LineFault Statement := do
  let v ← numbers .line 6 (withoutSystems (skipName args))
  pure (.perform (.line ⟨v[0], v[1], v[2]⟩ ⟨v[3], v[4], v[5]⟩))

/-- The line `frames COUNT`. -/
def frames (args : List String) : Except LineFault Statement :=
  match args with
  | [w] => (integer .frames w).map fun n => .perform (.frames (.whole n))
  | _ => .error .notOneInteger

/-- The line `vary KNOB START STOP FIRST LAST`. -/
def vary (args : List String) : Except LineFault Statement :=
  match args with
  | [knob, start, stop, first, last] =>
    if isNumber knob then .error .varyShape
    else do
      let start ← integer .vary start
      let stop ← integer .vary stop
      let v ← numbers .vary 2 [first, last]
      pure (.perform (.vary ⟨knob, start, stop, v[0], v[1]⟩))
  | _ => .error .varyShape

/-- The line `set KNOB VALUE`. -/
def setKnob (args : List String) : Except LineFault Statement :=
  match args with
  | [knob, value] =>
    if isNumber knob then .error .setShape
    else (numbers .set 1 [value]).map fun v => .set knob v[0]
  | _ => .error .setShape

/-- The line `setknobs VALUE`. -/
def setKnobs (args : List String) : Except LineFault Statement :=
  (numbers .setknobs 1 args).map fun v => .setAll v[0]

/-- The meaning of a command with its arguments. -/
def ofCommand (command : Keyword) (args : List String) : Except LineFault Statement :=
  match command with
  | .push => bare .push .push args
  | .pop => bare .pop .pop args
  | .display => bare .display .display args
  | .move => transform .move .move args
  | .scale => transform .scale .scale args
  | .rotate => rotate args
  | .box => box args
  | .sphere => sphere args
  | .torus => torus args
  | .line => line args
  | .save => verbatim .notOneFile .save args
  | .basename => verbatim .notOneName .basename args
  | .frames => frames args
  | .vary => vary args
  | .set => setKnob args
  | .setknobs => setKnobs args

/-- The meaning of the words of a line. -/
def ofWords (ws : List String) : Except LineFault Statement :=
  match ws with
  | [] => .ok .blank
  | w :: args =>
    match Keyword.ofWord? w with
    | some command => ofCommand command args
    | none => .error (.unknownCommand w)

/-- The operation that a statement adds to a script, if it adds one. -/
def operation? : Statement → Option (Operation Float)
  | perform op => some op
  | _ => none

/-- The knobs after a statement. A ramp gives its knob the value zero if it has none yet. -/
def apply (s : Statement) (knobs : Knobs Float) : Knobs Float :=
  match s with
  | perform (.vary r) => knobs.declare r.knob 0
  | set knob value => knobs.set knob value
  | setAll value => knobs.setAll value
  | _ => knobs

end Statement

end SceneScript
