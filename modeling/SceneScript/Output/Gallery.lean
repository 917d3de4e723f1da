import SceneScript.Output.Basic

/-!
# Galleries

An output that keeps what it gets in memory. It may have room for a limited number of pictures, and
there may be paths whose format it does not know.
-/

namespace SceneScript

/-- What an output has got, in order. -/
structure Gallery where
  stored : Array (String × Picture) := #[]
  shown : Array Picture := #[]
  assembled : Array Assembly := #[]
  deriving Inhabited

/-- The pictures that a gallery takes. -/
structure Gallery.Rules where
  room : Option Int := none
  rejected : List String := []

namespace Gallery

/-- Hangs a picture. The room is looked at before the path. -/
def save (rules : Rules) (picture : Picture) (path : String) (g : Gallery) : Reply Gallery String :=
  if rules.room.any (fun room => decide (room ≤ (g.stored.size : Int))) then
    ⟨.error (.unwritable path), g, []⟩
  else if rules.rejected.contains path then
    ⟨.error (.unknownFormat (Path.extension path)), g, []⟩
  else ⟨.ok path, { g with stored := g.stored.push (path, picture) }, []⟩

/-- The gallery as an output. -/
def output (rules : Rules) : Output Gallery where
  save := save rules
  display picture g := ⟨.ok (), { g with shown := g.shown.push picture }, []⟩
  assemble a g := ⟨.ok a.path, { g with assembled := g.assembled.push a }, []⟩

end Gallery

end SceneScript
