import SceneScript.Binary64
import SceneScript.Fault

/-!
# Scalars

The arithmetic scenes are computed in. Everything that places, interpolates or scan-converts a
scene is written once, over `Scalar`, and is used at two instances: at `Float`, in which pictures
are made, and at `Rat`, in which the same definitions are exact and can be compared with the
geometry they stand for.

The instance at `Float` differs from exact arithmetic in more than rounding. A double may be
infinite or undefined, and then it is the coordinate of no cell (`cellFault?`): what is drawn stops
there. Neither shows at `Rat`.
-/

namespace SceneScript

/-- The operations that scenes are computed with. -/
class Scalar (α : Type) extends Zero α, One α, Add α, Sub α, Mul α, Div α, Neg α, LT α, LE α,
    BEq α, IntCast α where
  decLt : DecidableLT α
  decLe : DecidableLE α
  /-- The greatest whole scalar that is not above the given one. -/
  floor : α → α
  /-- The least whole scalar that is not below the given one. -/
  ceil : α → α
  /-- The coordinate of a cell that a whole scalar stands for. -/
  toCell : α → Int
  /-- What is wrong with a scalar that stands for no coordinate of a cell. -/
  cellFault? : α → Option Fault
  /-- Whether the scalar is nearer than the empty background. -/
  isDepth : α → Bool

attribute [instance (100)] Scalar.toZero Scalar.toOne Scalar.toAdd Scalar.toSub Scalar.toMul
  Scalar.toDiv Scalar.toNeg Scalar.toLT Scalar.toLE Scalar.toBEq Scalar.toIntCast

namespace Scalar

variable {α : Type} [Scalar α]

instance (priority := 100) : DecidableLT α := decLt

instance (priority := 100) : DecidableLE α := decLe

/-- The larger of two scalars, the first when they are equal or cannot be compared. -/
@[inline] def larger (a b : α) : α := if a < b then b else a

/-- The smaller of two scalars, the first when they are equal or cannot be compared. -/
@[inline] def smaller (a b : α) : α := if b < a then b else a

/-- One half. -/
@[inline] def half : α := 1 / (1 + 1)

/-- The cell whose centre is nearest, the upper one of two equally near. -/
@[inline] def nearest (v : α) : Int := toCell (floor (v + half))

/-- What is wrong with a scalar for which there is no nearest cell. -/
@[inline] def nearestFault? (v : α) : Option Fault := cellFault? (floor (v + half))

end Scalar

/-- Exact arithmetic: every whole scalar is a cell and every scalar is a depth. -/
instance : Scalar Rat where
  zero := 0
  one := 1
  decLt := inferInstance
  decLe := inferInstance
  floor q := q.floor
  ceil q := q.ceil
  toCell := Rat.floor
  cellFault? _ := none
  isDepth _ := true

/-- Double precision. The background lies at negative infinity, so that depth and the undefined
one are not nearer than it. A whole double stands for its exact value, however large it is. -/
instance : Scalar Float where
  zero := 0
  one := 1
  decLt := inferInstance
  decLe := inferInstance
  intCast := Float.ofInt
  floor := Binary64.floor
  ceil := Binary64.ceil
  toCell x := ((Binary64.ofFloat x).whole?).getD 0
  cellFault? x :=
    match Binary64.ofFloat x with
    | .nan => some .undefinedCell
    | .infinite _ => some .infiniteCell
    | .finite .. => none
  isDepth x := decide (x > -1.0 / 0.0)

end SceneScript
