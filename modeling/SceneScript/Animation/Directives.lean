import SceneScript.Script.Operation

/-!
# Directives

What an operation list says about its animation as a whole: how many frames it has and what their
files are called. The directives may stand anywhere in the list, and of several of one kind the last
counts. Texts hold the frame count and the indices of frames, so the machine must write both
(`Directives.check`, `frameFilename`).
-/

namespace SceneScript

/-- The name of the frames' files when a script gives none. -/
def defaultBasename : String := "basename"

/-- The length and the name of an animation. -/
structure Directives where
  frames : Int := 1
  basename : String := defaultBasename
  basenameDefaulted : Bool := false
  deriving Repr, DecidableEq, Inhabited

namespace Directives

/-- Whether there is more than one frame. A single frame is a still picture. -/
def isAnimated (d : Directives) : Bool := decide (1 < d.frames)

/-- The directives as they stand in an operation list. A knob can only be varied over a length that
is given. -/
def read {α : Type} [Machine] (ops : List (Operation α)) : Except Fault Directives :=
  let count := (ops.filterMap Operation.frameCount?).getLast?
  let name := (ops.filterMap Operation.basename?).getLast?
  if count.isNone && ops.any (·.ramp?.isSome) then .error .varyWithoutFrames
  else
    let count := count.getD (.whole 1)
    match count.length? with
    | none => .error (.naming count.integers (.badFrameCount count))
    | some frames => .ok ⟨frames, name.getD defaultBasename, name.isNone⟩

/-- Directives are told with their number of frames, which the machine must write. -/
def check [Machine] (d : Directives) : Except Fault Unit :=
  if Machine.writes d.frames then .ok () else .error .tooLong

/-- The directives of an operation list, if they can be told. -/
def ofOperations {α : Type} [Machine] (ops : List (Operation α)) : Except Fault Directives := do
  let d ← read ops
  d.check
  pure d

end Directives

/-- The decimal digits of an integer after its sign, so many columns wide with the sign. -/
def paddedIndex (width : Nat) (n : Int) : String :=
  if n < 0 then "-" ++ Decimal.digits (width - 1) n.natAbs else Decimal.digits width n.natAbs

/-- The file of a frame: its index has three digits, or as many as the last index, so that the names
sort in the order of the frames. -/
def frameFile (basename : String) (index frames : Int) : String :=
  let last := max (frames - 1) 0
  let width := max 3 (Nat.toDigits 10 last.toNat).length
  basename ++ paddedIndex width index ++ ".png"

/-- The file of a frame on a machine that writes the last index and that of the frame. -/
def frameFilename [Machine] (basename : String) (index frames : Int) : Except Fault String :=
  if Machine.writes (max (frames - 1) 0) && Machine.writes index then
    .ok (frameFile basename index frames)
  else .error .tooLong

end SceneScript
