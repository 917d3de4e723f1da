import SceneScript.Room
import SceneScript.Scalar

/-!
# Ramps

A ramp takes a knob from one value to another over a range of frames, both ends included. Its
samples are evenly spaced (`evenly`). The last of two or more is the end value itself, not a sum
that rounds to it.
-/

namespace SceneScript

/-- A linear change of a knob from the frame `start` to the frame `stop`. -/
structure Ramp (α : Type) where
  knob : String
  start : Int
  stop : Int
  first : α
  last : α
  deriving Repr, Inhabited

/-- Evenly spaced values, `n` of them, from `first` to `last`. -/
def evenly {α : Type} [Scalar α] (first last : α) (n : Nat) : List α :=
  let delta := last - first
  if n ≤ 1 then List.replicate n (0 * delta + first)
  else
    let gaps : α := (((n : Int) - 1 : Int) : α)
    let step := delta / gaps
    (List.range n).map fun (i : Nat) =>
      if i + 1 = n then last
      else if step == 0 then ((i : Int) : α) / gaps * delta + first
      else ((i : Int) : α) * step + first

namespace Ramp

variable {α : Type}

/-- The number of frames of a ramp. It is not positive if the ramp ends before it starts. -/
def length (r : Ramp α) : Int := r.stop - r.start + 1

/-- The values of the knob, one for each frame of the ramp. -/
def samples [Machine] [Scalar α] (r : Ramp α) : Except Fault (List α) :=
  if r.length < 0 then .error (.naming [r.length] (.negativeSamples r.length))
  else .ok (evenly r.first r.last r.length.toNat)

/-- The values of the knob if there is room for them. A ramp that fits an animation is no longer
than it, and has its room there. -/
def table [Machine] [Scalar α] (r : Ramp α) : Except Fault (List α) := do
  if 0 < r.length then
    if (← spacedCount r.length "float64") = 0 then throw (.outOfBounds (-1) 0 0)
  r.samples

/-- What is wrong with a ramp in an animation of the given number of frames, if anything is. A ramp
that fits is told with both of its ends, and the start is no longer than the end. -/
def fault? [Machine] (r : Ramp α) (frames : Int) : Option Fault :=
  if r.start < 0 then some (.naming [r.start] (.rampBeforeStart r.knob r.start))
  else if r.stop < r.start then
    some (.naming [r.stop, r.start] (.rampReversed r.knob r.start r.stop))
  else if frames ≤ r.stop then
    some (.naming [r.stop, frames - 1] (.rampPastEnd r.knob r.stop (frames - 1)))
  else if Machine.writes r.stop then none
  else some .tooLong

end Ramp

end SceneScript
