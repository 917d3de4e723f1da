/-!
# Doubles as exact numbers

`Binary64.ofFloat` reads a double as the number it stands for: a significand times a power of two,
exactly. What is printed of a double (`SceneScript.Decimal.Fixed`, `SceneScript.Decimal.Shortest`),
the whole number it may hold (`Binary64.whole?`) and the whole doubles next to it
(`Binary64.floor`, `Binary64.ceil`) are computed from that in natural numbers, so no step rounds
but the one that is asked for.
-/

namespace SceneScript

/-- What the bits of a double stand for. A finite one is `significand * 2 ^ exponent`, negated when
`negative`. -/
inductive Binary64
  | nan
  | infinite (negative : Bool)
  | finite (negative : Bool) (significand : Nat) (exponent : Int)
  deriving Repr, DecidableEq, Inhabited

namespace Binary64

/-- The exponent of the doubles nearest to zero. -/
def leastExponent : Int := -1074

/-- The least significand of a double with all its digits, `2 ^ 52`. -/
def fullSignificand : Nat := 1 <<< 52

/-- The number that a double holds. -/
def ofFloat (x : Float) : Binary64 :=
  let bits := x.toBits.toNat
  let negative := bits >>> 63 == 1
  let scale : Nat := (bits >>> 52) % 2048
  let fraction := bits % fullSignificand
  if scale == 2047 then
    if fraction == 0 then .infinite negative else .nan
  else if scale == 0 then .finite negative fraction leastExponent
  else .finite negative (fullSignificand + fraction) (leastExponent + (scale - 1 : Nat))

/-- The magnitude of a finite number as a quotient of natural numbers. -/
def quotient (significand : Nat) (exponent : Int) : Nat × Nat :=
  (significand <<< exponent.toNat, 1 <<< (-exponent).toNat)

/-- The whole number that a double holds, if it holds one. -/
def whole? : Binary64 → Option Int
  | .finite negative significand exponent =>
    let (num, den) := quotient significand exponent
    if num % den == 0 then
      let n : Int := (num / den : Nat)
      some (if negative then -n else n)
    else none
  | _ => none

/-- Whether a double is neither infinite nor undefined. -/
def isFinite : Binary64 → Bool
  | .finite .. => true
  | _ => false

/-- The whole double next to the given one, which is above it if `up`. A whole double is its own,
and so is one that is infinite or undefined. What lies between two whole doubles is small enough for
both to be exact. -/
def roundedTo (up : Bool) (x : Float) : Float :=
  match ofFloat x with
  | .finite negative significand exponent =>
    let (num, den) := quotient significand exponent
    if num % den == 0 then x
    else
      let magnitude := Float.ofNat (if up == negative then num / den else num / den + 1)
      if negative then -magnitude else magnitude
  | _ => x

/-- The greatest whole double that is not above the given one. -/
def floor (x : Float) : Float := roundedTo false x

/-- The least whole double that is not below the given one. -/
def ceil (x : Float) : Float := roundedTo true x

end Binary64

end SceneScript
