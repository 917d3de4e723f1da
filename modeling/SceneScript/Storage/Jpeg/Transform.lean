/-!
# The cosine transform of photographs

Blocks of eight by eight samples are taken apart into coefficients and put together again, in
integers: the rows first and then the columns, or the columns first and then the rows. The factors
are multiples of `2 ^ -13`, and the result of the first pass is four times as fine as that of the
second.
-/

namespace SceneScript.Jpeg

/-- Eight numbers side by side. -/
structure Octet where
  a : Int
  b : Int
  c : Int
  d : Int
  e : Int
  f : Int
  g : Int
  h : Int
  deriving Repr, DecidableEq, Inhabited

namespace Octet

/-- A number divided by a power of two, a half rounded up. The divisor is given. -/
@[inline] def rounded (n divisor : Int) : Int := (n + divisor / 2) / divisor

/-- The four odd coefficients of the sums and differences of the halves, times `2 ^ 13`. The same
numbers make up the samples again. -/
@[inline] def turned (p q r s : Int) : Int × Int × Int × Int :=
  let sum := (p + r + (q + s)) * 9633
  let ps := (p + s) * -7373
  let qr := (q + r) * -20995
  let pr := (p + r) * -16069 + sum
  let qs := (q + s) * -3196 + sum
  (p * 2446 + ps + pr, q * 16819 + qr + qs, r * 25172 + qr + pr, s * 12299 + ps + qs)

/-- The coefficients of eight samples. The first and the fifth are given as they are and turned by
`plain`, the others are divided. -/
def apart (o : Octet) (plain : Int → Int) (divisor : Int) : Octet :=
  let (s0, s1, s2, s3) := (o.a + o.h, o.b + o.g, o.c + o.f, o.d + o.e)
  let (t0, t1) := (s0 + s3, s1 + s2)
  let (u, v) := (s0 - s3, s1 - s2)
  let z := (u + v) * 4433
  let (p, q, r, s) := turned (o.d - o.e) (o.c - o.f) (o.b - o.g) (o.a - o.h)
  ⟨plain (t0 + t1), rounded s divisor, rounded (z + u * 6270) divisor, rounded r divisor,
    plain (t0 - t1), rounded q divisor, rounded (z - v * 15137) divisor, rounded p divisor⟩

/-- The samples of eight coefficients, divided. -/
def together (o : Octet) (divisor : Int) : Octet :=
  let z := (o.c + o.g) * 4433
  let (u, v) := (z - o.g * 15137, z + o.c * 6270)
  let (s, t) := ((o.a + o.e) * 8192, (o.a - o.e) * 8192)
  let (w0, w1, w2, w3) := (s + v, t + u, t - u, s - v)
  let (p, q, r, s) := turned o.h o.f o.d o.b
  let part (n : Int) : Int := rounded n divisor
  ⟨part (w0 + s), part (w1 + r), part (w2 + q), part (w3 + p), part (w3 - p), part (w2 - q),
    part (w1 - r), part (w0 - s)⟩

/-- Eight numbers of a block, from one on with the given step. -/
@[inline] def ofBlock (block : Array Int) (start step : Nat) : Octet :=
  let at0 (k : Nat) : Int := block.getD (start + step * k) 0
  ⟨at0 0, at0 1, at0 2, at0 3, at0 4, at0 5, at0 6, at0 7⟩

/-- The block with eight numbers put into it. -/
@[inline] def put (o : Octet) (block : Array Int) (start step : Nat) : Array Int :=
  let set (block : Array Int) (k : Nat) (n : Int) : Array Int :=
    block.setIfInBounds (start + step * k) n
  set (set (set (set (set (set (set (set block 0 o.a) 1 o.b) 2 o.c) 3 o.d) 4 o.e) 5 o.f) 6 o.g)
    7 o.h

end Octet

/-- A block with something done to all of its rows or columns. -/
def eachLine (block : Array Int) (columns : Bool) (f : Octet → Octet) : Array Int :=
  let (start, step) := if columns then (1, 8) else (8, 1)
  Nat.fold 8 (fun k _ block => (f (.ofBlock block (start * k) step)).put block (start * k) step)
    block

/-- The coefficients of a block of samples, eight times too large. -/
def coefficients (samples : Array Int) : Array Int :=
  let rows := eachLine samples false fun o => o.apart (4 * ·) 2048
  eachLine rows true fun o => o.apart (Octet.rounded · 4) 32768

/-- The samples of a block of coefficients. -/
def samples (coefficients : Array Int) : Array Int :=
  let columns := eachLine coefficients true fun o => o.together 2048
  eachLine columns false fun o => o.together 262144

/-- A coefficient, eight times too large, in steps: the nearest number of them. -/
def quantized (n : Int) (step : Nat) : Int :=
  let size := 8 * step
  let count : Int := ((n.natAbs + size / 2) / size : Nat)
  if n < 0 then -count else count

end SceneScript.Jpeg
