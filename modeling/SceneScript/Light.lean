import SceneScript.Raster.Draw

/-!
# Light

Flat shading: the colour of a side from its normal, as the sum of ambient, diffuse and specular
light. Each part of the colour is held between 0 and 255 and its fraction is dropped.
-/

namespace SceneScript

/-- The light on a scene and what the solids reflect of it. -/
structure Light where
  ambient : Vec3 Float := ⟨50, 50, 50⟩
  position : Vec3 Float := ⟨0.5, 0.75, 1⟩
  colour : Vec3 Float := ⟨0, 255, 255⟩
  view : Vec3 Float := ⟨0, 0, 1⟩
  ambientReflect : Vec3 Float := ⟨0.1, 0.1, 0.1⟩
  diffuseReflect : Vec3 Float := ⟨0.5, 0.5, 0.5⟩
  specularReflect : Vec3 Float := ⟨0.5, 0.5, 0.5⟩
  exponent : Int := 8
  deriving Repr, Inhabited

namespace Light

/-- A direction of length one. The zero direction stays as it is. -/
def normalise (v : Vec3 Float) : Vec3 Float :=
  let length := (v.dot v).sqrt
  if length == 0 then ⟨0, 0, 0⟩ else v.map (· / length)

/-- The product of two vectors part by part. -/
def times (a b : Vec3 Float) : Vec3 Float := ⟨a.x * b.x, a.y * b.y, a.z * b.z⟩

/-- The sum of two vectors. -/
def plus (a b : Vec3 Float) : Vec3 Float := ⟨a.x + b.x, a.y + b.y, a.z + b.z⟩

/-- A double as an exponent, which an integer of more than 1024 bits is not. -/
def exponentOf (n : Int) : Except Fault Float :=
  let x := Float.ofInt n
  if x.isInf then .error .integerTooLarge else .ok x

/-- A power of a base that is not negative. Zero has no negative powers, and a power must be a
finite double. -/
def power (base : Float) (exponent : Int) : Except Fault Float := do
  let e ← exponentOf exponent
  if e == 0 then pure 1
  else if base.isNaN then pure base
  else if base.isInf then pure (if e > 0 then base else 0)
  else if base == 0 then
    if e < 0 then throw .zeroToNegativePower else pure 0
  else
    let x := base.pow e
    if x.isInf then throw .powerTooLarge else pure x

/-- The light that a side with the given unit normal reflects to the viewer, if it is lit. -/
def specular (l : Light) (n toLight toView : Vec3 Float) (cosine : Float) :
    Except Fault (Vec3 Float) := do
  if cosine > 0 then
    let reflected := (n.map (2 * cosine * ·)).sub toLight
    let p ← power (Scalar.larger (reflected.dot toView) 0) l.exponent
    pure ((times l.colour l.specularReflect).scale p)
  else pure ⟨0, 0, 0⟩

/-- A part of a colour: held between 0 and 255, without its fraction. -/
def part (x : Float) : Except Fault UInt8 :=
  if x.isNaN then .error .undefinedColour
  else .ok (if x < 0 then 0 else if 255 < x then 255 else x.toUInt8)

/-- The colour of a side with the given normal. -/
def shade (l : Light) (normal : Vec3 Float) : Except Fault Rgb := do
  let n := normalise normal
  let toLight := normalise l.position
  let toView := normalise l.view
  let cosine := n.dot toLight
  let diffuse := (times l.colour l.diffuseReflect).scale (Scalar.larger cosine 0)
  let specular ← l.specular n toLight toView cosine
  let sum := plus (plus (times l.ambient l.ambientReflect) diffuse) specular
  pure ⟨← part sum.x, ← part sum.y, ← part sum.z⟩

/-- The look of solids in a light. -/
def surface (l : Light) : Surface Float := ⟨l.view, l.shade⟩

end Light

end SceneScript
