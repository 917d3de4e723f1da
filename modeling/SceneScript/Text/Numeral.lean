import SceneScript.Text.Digit
import SceneScript.Binary64

/-!
# Numerals

The grammar of numbers in a script:

    numeral  = [sign] (digits ["." [digits]] | "." digits) [("e" | "E") [sign] digits]
             | [sign] ("inf" | "infinity" | "nan")          in either case
    digits   = digit {["_"] digit}                          in the digits of any script

`Numeral.ofString?` reads one, and `Numeral.toFloat` is the double nearest to it. A script takes
only the finite ones for numbers (`number?`), so a name may be spelt `nan`, and so may a numeral
beyond the largest double.
-/

namespace SceneScript.Text

/-- A numeral. A decimal one is `significand * 10 ^ exponent`, negated when `negative`. -/
inductive Numeral
  | decimal (negative : Bool) (significand : Nat) (exponent : Int)
  | infinite (negative : Bool)
  | undefined
  deriving Repr, DecidableEq, Inhabited

namespace Numeral

/-- The digits at the front of a text after those found so far, last one first, and what follows
them. An underscore may stand between two digits. -/
def digitsFrom (found : List Nat) : List Char → List Nat × List Char
  | [] => (found.reverse, [])
  | '_' :: c :: rest =>
    match found, digitValue? c with
    | _ :: _, some d => digitsFrom (d :: found) rest
    | _, _ => (found.reverse, '_' :: c :: rest)
  | c :: rest =>
    match digitValue? c with
    | some d => digitsFrom (d :: found) rest
    | none => (found.reverse, c :: rest)

/-- The digits at the front of a text, and what follows them. -/
def takeDigits (text : List Char) : List Nat × List Char := digitsFrom [] text

/-- The natural number with the given decimal digits. -/
def ofDigits (ds : List Nat) : Nat := ds.foldl (fun n d => 10 * n + d) 0

/-- A sign at the front of a text: whether it is a minus, and what follows. -/
def takeSign : List Char → Bool × List Char
  | '-' :: rest => (true, rest)
  | '+' :: rest => (false, rest)
  | text => (false, text)

/-- The fraction after the whole part of a numeral. -/
def takeFraction : List Char → List Nat × List Char
  | '.' :: rest => takeDigits rest
  | text => ([], text)

/-- The exponent that ends a numeral. -/
def exponent? : List Char → Option Int
  | [] => some 0
  | c :: rest =>
    if c == 'e' || c == 'E' then
      let (negative, rest) := takeSign rest
      match takeDigits rest with
      | ([], _) | (_, _ :: _) => none
      | (ds, []) => some (if negative then -(ofDigits ds) else ofDigits ds)
    else none

/-- A numeral without its sign. -/
def unsigned? (negative : Bool) (text : List Char) : Option Numeral :=
  let name := text.map Char.toLower
  if name = ['i', 'n', 'f'] ∨ name = ['i', 'n', 'f', 'i', 'n', 'i', 't', 'y'] then
    some (.infinite negative)
  else if name = ['n', 'a', 'n'] then some .undefined
  else
    let (whole, rest) := takeDigits text
    let (fraction, rest) := takeFraction rest
    if whole.isEmpty && fraction.isEmpty then none
    else (exponent? rest).map fun e =>
      .decimal negative (ofDigits (whole ++ fraction)) (e - fraction.length)

/-- The numeral that a text is, if it is one. -/
def ofString? (text : String) : Option Numeral :=
  let (negative, rest) := takeSign text.toList
  unsigned? negative rest

/-- The double nearest to `significand * 10 ^ exponent`. Beyond three hundred and twenty digits in
front of the point or three hundred and fifty zeros after it the double is known without the
power. -/
def magnitude (significand : Nat) (exponent : Int) : Float :=
  let size := (Nat.toDigits 10 significand).length + exponent
  if significand = 0 ∨ size < -350 then 0.0
  else if 320 < size then 1.0 / 0.0
  else Float.ofScientific significand (exponent < 0) exponent.natAbs

/-- The double nearest to a numeral. -/
def toFloat : Numeral → Float
  | .decimal negative significand exponent =>
    let x := magnitude significand exponent
    if negative then -x else x
  | .infinite negative => if negative then -1.0 / 0.0 else 1.0 / 0.0
  | .undefined => 0.0 / 0.0

end Numeral

/-- The double that a word of a script stands for, if it is a number. -/
def number? (word : String) : Option Float :=
  (Numeral.ofString? word).bind fun n =>
    let x := n.toFloat
    if (Binary64.ofFloat x).isFinite then some x else none

/-- Whether a word of a script is a number. A word that is none is a name. -/
def isNumber (word : String) : Bool := (number? word).isSome

/-- The integer that a word of a script stands for, if it is one: a number with no fraction, in any
spelling. -/
def integer? (word : String) : Option Int :=
  (number? word).bind fun x => (Binary64.ofFloat x).whole?

end SceneScript.Text
