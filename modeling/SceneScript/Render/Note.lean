import SceneScript.Animation.Knobs
import SceneScript.Output.Basic
import SceneScript.Script.Operation

/-!
# The log

What a run has to say, as data: each record is a `Note`, with a level, the part of the program that
it comes from, and a text. Numbers are written only when the text is asked for, so notes can be
compared exactly.
-/

namespace SceneScript

/-- The weight of a note. -/
inductive Level
  | debug | info | error
  deriving Repr, DecidableEq, Inhabited

/-- A record of the log. -/
inductive Note (α : Type)
  | logging (verbose : Bool)
  | bundledScript (path : String)
  | reading (path : String)
  | parsed (operations knobs : Nat)
  | basenameUsed (name : String)
  | scanned (frames : Int) (basename : String)
  | varied (ramp : Ramp α)
  | knobTable (knobs : Knobs α)
  | moved (offset : Vec3 α) (knob : Option String)
  | scaled (factors : Vec3 α) (knob : Option String)
  | rotated (axis : Axis) (degrees : α) (knob : Option String)
  | frameDone (frame frames : Int)
  | wrote (file : Written)
  | failed (why : Fault)
  | stillDone (saved : Nat)
  | animationDone (frames : Int) (path : String)

namespace Level

/-- A level in a record. -/
def name : Level → String
  | debug => "DEBUG"
  | info => "INFO"
  | error => "ERROR"

end Level

namespace Note

variable {α : Type}

/-- The weight of a note. -/
def level : Note α → Level
  | logging _ | bundledScript _ | parsed .. | scanned .. | varied _ | moved .. | scaled ..
  | rotated .. => .debug
  | failed _ => .error
  | _ => .info

/-- The part of the program that a note comes from. -/
def source : Note α → String
  | logging _ => "mdlanim"
  | bundledScript _ | failed _ | stillDone _ | animationDone .. => "mdlanim.main"
  | reading _ | parsed .. => "mdlanim.pre.parser"
  | basenameUsed _ | scanned .. => "mdlanim.pre.scan"
  | varied _ => "mdlanim.pre.keyframes"
  | knobTable _ => "mdlanim.model.symbols"
  | moved .. | scaled .. | rotated .. | frameDone .. => "mdlanim.engine.interpreter"
  | wrote _ => "mdlanim.io"

/-- Three amounts side by side. -/
def amounts (v : Vec3 Float) : String :=
  " ".intercalate (v.toList.map Decimal.amount)

/-- The knob of a transform at the end of its record. A knob without a name is not shown. -/
def knobSuffix (knob : Option String) : String :=
  match knob with
  | none => ""
  | some name => if name.isEmpty then "" else "\tknob: " ++ name

/-- The text of a note. -/
def text : Note Float → String
  | logging verbose =>
    "Logging initialized (console: " ++ (if verbose then "DEBUG" else "INFO") ++ ")."
  | bundledScript path => "Using bundled script: " ++ path
  | reading path => "Reading script: " ++ path
  | parsed operations knobs =>
    "Parsed " ++ toString operations ++ " operations, " ++ toString knobs ++ " knobs."
  | basenameUsed name => "Basename used: " ++ name
  | scanned frames basename =>
    "Pre-scan: " ++ toString frames ++ " frame(s), basename '" ++ basename ++ "'."
  | varied r =>
    "vary " ++ r.knob ++ ": frames " ++ toString r.start ++ "-" ++ toString r.stop ++ ", " ++
      Decimal.text r.first ++ " -> " ++ Decimal.text r.last
  | knobTable knobs => "Knobs:\n" ++ knobs.report
  | moved offset knob => "Move: " ++ amounts offset ++ knobSuffix knob
  | scaled factors knob => "Scale: " ++ amounts factors ++ knobSuffix knob
  | rotated axis degrees knob =>
    "Rotate: axis: " ++ axis.name ++ " degrees: " ++ Decimal.amount degrees ++ knobSuffix knob
  | frameDone frame frames => "Frame " ++ toString (frame + 1) ++ "/" ++ toString frames ++ " done."
  | wrote (.image path) => "Image saved to: " ++ path
  | wrote (.animation frames path) =>
    "Animation of " ++ toString frames ++ " frames saved to: " ++ path
  | failed why => "Rendering failed: " ++ why.message
  | stillDone saved => "Rendered " ++ toString saved ++ " saved image(s)."
  | animationDone frames path => toString frames ++ " frames rendered, animation: " ++ path

/-- Whether a note is shown when only those of some weight are. -/
def isShown (verbose : Bool) (n : Note α) : Bool := verbose || n.level != .debug

end Note

end SceneScript
