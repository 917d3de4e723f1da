import SceneScript.Fault
import SceneScript.Raster.Picture
import SceneScript.Storage.Path

/-!
# Outputs

Where pictures go. An output is three functions on a state of its own; each answers with a result or
a fault, its next state, and what it has written. An answer with a fault has a next state, too, so a
failed write may leave traces.
-/

namespace SceneScript

/-- A file that an output reports to have written. -/
inductive Written
  | image (path : String)
  | animation (frames : Nat) (path : String)
  deriving Repr, DecidableEq, Inhabited

/-- The answer of an output. -/
structure Reply (σ β : Type) where
  result : Except Fault β
  state : σ
  written : List Written := []

/-- The frames of an animation and where it goes. -/
structure Assembly where
  basename : String
  frames : List String
  directory : String
  duration : Int
  deriving Repr, DecidableEq, Inhabited

/-- The path of an animation: its name and extension in its directory. -/
def Assembly.path (a : Assembly) : String := Path.join a.directory (a.basename ++ ".gif")

/-- A place for pictures. -/
structure Output (σ : Type) where
  /-- Stores a picture under a path, and answers with the path. -/
  save : Picture → String → σ → Reply σ String
  /-- Shows a picture. -/
  display : Picture → σ → Reply σ Unit
  /-- Makes an animation of stored pictures, and answers with its path. -/
  assemble : Assembly → σ → Reply σ String

namespace Reply

/-- The answer with its fault replaced. -/
def mapFault {σ β : Type} (f : Fault → Fault) (r : Reply σ β) : Reply σ β :=
  { r with result := r.result.mapError f }

end Reply

end SceneScript
