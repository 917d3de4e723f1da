import SceneScript.Animation.Directives
import SceneScript.Animation.Knobs

/-!
# Timelines

The values that the ramps of a script give to its knobs in each frame. Where two ramps set one knob
in one frame, the later one counts.
-/

namespace SceneScript

/-- The knob values of each frame. -/
structure Timeline (α : Type) where
  slots : Array (Knobs α)

namespace Timeline

variable {α : Type}

/-- A timeline of frames without values. -/
def empty (frames : Int) : Timeline α := ⟨Array.replicate frames.toNat .empty⟩

/-- The number of frames. -/
def size (t : Timeline α) : Nat := t.slots.size

/-- The slot of a frame. A negative frame counts from the end. -/
def slot? (t : Timeline α) (frame : Int) : Except Fault (Fin t.slots.size) :=
  let i := if frame < 0 then frame + t.slots.size else frame
  if h : 0 ≤ i ∧ i < t.slots.size then .ok ⟨i.toNat, by omega⟩
  else .error (if isWord frame then .noSuchFrame else .frameNotWord)

/-- The values of a frame. -/
def bindings (t : Timeline α) (frame : Int) : Except Fault (Knobs α) :=
  (t.slot? frame).map fun i => t.slots[i]

/-- The timeline with one more value in a frame. -/
def bind (t : Timeline α) (frame : Int) (knob : String) (value : α) : Except Fault (Timeline α) :=
  (t.slot? frame).map fun i => ⟨t.slots.modify i.val (·.set knob value)⟩

/-- The timeline with the values of a ramp from the frame `frame` on. -/
def bindAll (knob : String) : Int → List α → Timeline α → Except Fault (Timeline α)
  | _, [], t => .ok t
  | frame, v :: vs, t => do bindAll knob (frame + 1) vs (← t.bind frame knob v)

/-- The timeline with the values of one more ramp. -/
def addRamp [Machine] [Scalar α] (frames : Int) (t : Timeline α) (r : Ramp α) :
    Except Fault (Timeline α) := do
  if let some fault := r.fault? frames then throw fault
  bindAll r.knob r.start (← r.samples) t

/-- The ramps of an operation list. -/
def ramps (ops : List (Operation α)) : List (Ramp α) := ops.filterMap Operation.ramp?

/-- The ramps in front of the first that does not fit. -/
def fitting [Machine] (frames : Int) (rs : List (Ramp α)) : List (Ramp α) :=
  rs.takeWhile fun r => (r.fault? frames).isNone

/-- The timeline of an operation list. -/
def ofOperations [Machine] [Scalar α] (ops : List (Operation α)) (frames : Int) :
    Except Fault (Timeline α) :=
  (ramps ops).foldlM (addRamp frames) (empty frames)

end Timeline

end SceneScript
