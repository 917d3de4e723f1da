import SceneScript.Decimal.Fixed

/-!
# The shortest decimal that reads back

Of the decimals that round to a double, `shortest?` takes those with the fewest digits, and of them
the one nearest to the double. The reals that round to a double form an interval around it, closed
when its significand is even. If a decimal of `n` digits lies in the interval, so does one of the
two that are next to the double on that grid; so two candidates for each `n` are enough, and
seventeen digits always are.

`text` writes that decimal. It stands with a point while the decimal exponent lies between `-4` and
`15`, and with one digit before the point and an exponent of two digits or more outside of that.
-/

namespace SceneScript.Decimal

/-- A decimal: `digits * 10 ^ exponent`. -/
structure Scaled where
  digits : Nat
  exponent : Int
  deriving Repr, DecidableEq, Inhabited

/-- The power of ten that multiplies a numerator and the one that multiplies a denominator, to
divide by `10 ^ e`. -/
def tenPowers (e : Int) : Nat × Nat := (tenTo (-e).toNat, tenTo e.toNat)

/-- The decimal exponent of the first digit of a positive quotient. -/
def leadingExponent (num den : Nat) : Int :=
  if den ≤ num then (Nat.toDigits 10 (num / den)).length - 1
  else
    let j := (Nat.toDigits 10 (den / num)).length
    if den ≤ num * tenTo (j - 1) then -(j - 1 : Int) else -(j : Int)

/-- Whether `value` quarters of `2 ^ exponent`, given as a quotient, round to the significand. -/
def roundsTo (significand : Nat) (exponent : Int) (num den : Nat) : Bool :=
  let below :=
    if significand == Binary64.fullSignificand && exponent != Binary64.leastExponent then
      4 * significand - 1
    else 4 * significand - 2
  let above := 4 * significand + 2
  let (up, down) := (1 <<< (exponent - 2).toNat, 1 <<< (2 - exponent).toNat)
  let lower := below * up * den
  let upper := above * up * den
  let value := num * down
  if significand % 2 == 0 then lower ≤ value && value ≤ upper
  else lower < value && value < upper

/-- The candidate with the given count of digits, if one reads back. -/
def candidate? (significand : Nat) (exponent : Int) (count : Nat) : Option Scaled :=
  let (num, den) := Binary64.quotient significand exponent
  let e := leadingExponent num den + 1 - count
  let (up, down) := tenPowers e
  let (n, d) := (num * up, den * down)
  let q := n / d
  let reads (k : Nat) : Bool := roundsTo significand exponent (k * down) up
  let lowDistance := n - q * d
  let highDistance := (q + 1) * d - n
  let low : Option Scaled := if reads q then some ⟨q, e⟩ else none
  let high : Option Scaled := if reads (q + 1) then some ⟨q + 1, e⟩ else none
  match low, high with
  | some l, some h =>
    if lowDistance < highDistance ∨ (lowDistance = highDistance ∧ q % 2 = 0) then some l else some h
  | some l, none => some l
  | none, h => h

/-- The shortest decimal that rounds to a positive double. -/
def shortest? (significand : Nat) (exponent : Int) : Option Scaled :=
  ((List.range 17).map (· + 1)).findSome? (candidate? significand exponent)

/-- The digits of a decimal without trailing zeros, and the exponent of its first digit. -/
def normalised (d : Scaled) : List Char × Int :=
  let ds := Nat.toDigits 10 d.digits
  ((ds.reverse.dropWhile (· == '0')).reverse, d.exponent + ds.length - 1)

/-- A positive decimal in text, given its digits and the exponent of the first one. -/
def layout (ds : List Char) (e : Int) : String :=
  if -4 ≤ e ∧ e < 16 then
    if e < 0 then "0." ++ String.ofList (List.replicate (-e - 1).toNat '0' ++ ds)
    else
      let k := (e + 1).toNat
      let whole := ds.take k ++ List.replicate (k - ds.length) '0'
      let rest := ds.drop k
      String.ofList whole ++ "." ++ String.ofList (if rest.isEmpty then ['0'] else rest)
  else
    let point := if ds.length ≤ 1 then "" else "."
    let sign := if e < 0 then "-" else "+"
    String.ofList (ds.take 1) ++ point ++ String.ofList (ds.drop 1) ++ "e" ++ sign ++
      digits 2 e.natAbs

/-- A double as the shortest decimal that reads back. -/
def text (x : Float) : String :=
  match Binary64.ofFloat x with
  | .nan => "nan"
  | .infinite negative => if negative then "-inf" else "inf"
  | .finite negative significand exponent =>
    let magnitude :=
      match shortest? significand exponent with
      | some d => if significand = 0 then "0.0" else
          let (ds, e) := normalised d
          layout ds e
      | none => "0.0"
    if negative then "-" ++ magnitude else magnitude

end SceneScript.Decimal
