/-!
# Bundled scripts

Sample scenes that can be named without a path: a still picture of a robot and two animations.
-/

namespace SceneScript.Samples

/-- The directory that the samples are found in. -/
def directory : String := "/usr/share/scene-script/samples"

/-- A box robot with a line for a floor. -/
def robot : List String := [
  "// Still image: a box robot with a line for a floor",
  "push",
  "move 250 250 0",
  "rotate x 20",
  "rotate y 30",
  "box -100 125 50 200 250 100",
  "push",
  "move 0 175 0",
  "sphere 0 0 0 50",
  "pop",
  "push",
  "move -100 125 0",
  "rotate x -45",
  "box -40 0 40 40 100 80",
  "pop",
  "push",
  "move 100 125 0",
  "box 0 0 40 40 100 80",
  "pop",
  "pop",
  "line 0 100 0 500 100 0",
  "save robot.png"]

/-- A box that slides to the right and back while it shrinks. -/
def bounce : List String := [
  "// Box sliding right then back while shrinking",
  "frames 100",
  "basename bounce",
  "set slide 0",
  "set size 1",
  "",
  "push",
  "move 50 250 0",
  "move 400 0 0 slide",
  "scale 1 1 1 size",
  "rotate y 30",
  "box -50 50 50 100 100 100",
  "pop",
  "",
  "vary slide 0 49 0 1",
  "vary slide 50 99 1 0",
  "vary size 0 99 1 0.25"]

/-- A torus around a sphere. -/
def orbit : List String := [
  "// A torus spinning around a fixed sphere",
  "frames 60",
  "basename orbit",
  "",
  "push",
  "move 250 250 0",
  "rotate x 20",
  "sphere 0 0 0 60",
  "push",
  "rotate y 360 spin",
  "move 150 0 0",
  "rotate x 90",
  "torus 0 0 0 15 40",
  "pop",
  "pop",
  "",
  "vary spin 0 59 0 1"]

/-- The names of the samples with their lines. -/
def all : List (String × List String) :=
  [("robot.mdl", robot), ("bounce.mdl", bounce), ("orbit.mdl", orbit)]

/-- The text of lines, each with its line feed. -/
def text (lines : List String) : String := String.join (lines.map (· ++ "\n"))

end SceneScript.Samples
