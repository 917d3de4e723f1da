import SceneScript.Binary64

/-!
# Numbers with a fixed count of decimal places

The exact value of a double, rounded once to the given number of places. A half goes to the even
neighbour (`roundQuotient`).
-/

namespace SceneScript.Decimal

/-- The quotient of two natural numbers, rounded to the nearest natural number, a half to the even
one. -/
def roundQuotient (num den : Nat) : Nat :=
  let q := num / den
  let r := num % den
  if den < 2 * r ∨ (den = 2 * r ∧ q % 2 = 1) then q + 1 else q

/-- Ten to the given power. -/
def tenTo (n : Nat) : Nat := Nat.pow 10 n

/-- Blanks in front of a text that is shorter than the given width. -/
def padLeft (width : Nat) (text : String) : String :=
  String.ofList (List.replicate (width - text.length) ' ') ++ text

/-- A natural number in decimal digits, with zeros in front up to the given width. -/
def digits (width n : Nat) : String :=
  let ds := Nat.toDigits 10 n
  String.ofList (List.replicate (width - ds.length) '0' ++ ds)

/-- A count of units of the last place, written with that many places after the point. -/
def withPoint (places units : Nat) : String :=
  let whole := digits 1 (units / tenTo places)
  if places = 0 then whole else whole ++ "." ++ digits places (units % tenTo places)

/-- A double with the given number of places after the point. -/
def fixed (places : Nat) (x : Float) : String :=
  match Binary64.ofFloat x with
  | .nan => "nan"
  | .infinite negative => if negative then "-inf" else "inf"
  | .finite negative significand exponent =>
    let (num, den) := Binary64.quotient significand exponent
    let text := withPoint places (roundQuotient (num * tenTo places) den)
    if negative then "-" ++ text else text

/-- An amount in a table or a log record: two places, six columns wide at least. -/
def amount (x : Float) : String := padLeft 6 (fixed 2 x)

end SceneScript.Decimal
