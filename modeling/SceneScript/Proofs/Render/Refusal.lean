import SceneScript.Proofs.Animation.Defects
import SceneScript.Proofs.Render.Journal
import SceneScript.Proofs.Render.Plan

/-!
# A refused script touches nothing

When a pass before the rendering finds a defect in the directives, the run stops there, and all that
is left of it is what has been told (`Job.refusal`). It does not matter where the defect stands: the
operations in front of it are not performed, and the ramps in front of it bind no knob.
-/

namespace SceneScript

namespace Job

section
variable {α σ : Type} [Scalar α] [Trig α] {job : Job α σ} {fault : Fault}

/-- A run that is refused has told something and has done nothing else. -/
theorem run_of_refused (h : Operation.Refused job.operations fault) (s₀ : RenderState α σ) :
    ∃ told, job.run s₀ = .error fault { s₀ with notes := s₀.notes ++ told } := by
  cases h with
  | directives hd => exact ⟨_, run_of_directives_error hd⟩
  | ramps hd ht => exact ⟨_, by rw [run_of_ramps_error hd ht, Array.append_assoc]⟩

/-- A run that is refused has asked the output for nothing. -/
theorem calls_of_refused (h : Operation.Refused job.operations fault) (s₀ : RenderState α σ) :
    job.calls s₀ = [] := by
  have hj : Operation.Refused job.journaled.operations fault := h
  obtain ⟨_, hrun⟩ := run_of_refused hj s₀.journaled
  exact calls_of_record_error hrun

/-- The passes before the rendering refuse a script for what is wrong with its directives, wherever
they stand, and for nothing else. The run stops at their fault, and it leaves the canvas, the stack,
the knobs and the output as they were and has asked the output for nothing: all that it has done is
to tell something. -/
theorem refusal (job : Job α σ) (fault : Fault) (s₀ : RenderState α σ) :
    (Operation.Refused job.operations fault ↔ Operation.Defect job.operations fault) ∧
    (Operation.Refused job.operations fault →
      (∃ told, job.run s₀ = .error fault { s₀ with notes := s₀.notes ++ told }) ∧
      job.calls s₀ = []) :=
  ⟨Operation.refused_iff_defect, fun h => ⟨run_of_refused h s₀, calls_of_refused h s₀⟩⟩

end

/-- A script that draws and saves in front of its directives. Its second ramp goes beyond the last
frame. -/
def longRamp : Job Float Gallery where
  operations := [.push, .line ⟨0, 0, 0⟩ ⟨1, 0, 0⟩, .save "a.png", .vary ⟨"k", 0, 1, 0, 1⟩,
    .vary ⟨"m", 1, 2, 0, 1⟩, .display, .frames (.whole 2)]
  settings := movingDot.settings
  directory := some "d"
  output := Gallery.output {}

/-- Nothing is drawn or saved, and the first ramp binds no knob. -/
theorem refusal_longRamp :
    Operation.Defect longRamp.operations (.rampPastEnd "m" 2 1) ∧
    ∃ told, longRamp.run usedState =
        .error (.rampPastEnd "m" 2 1) { usedState with notes := usedState.notes ++ told } ∧
      longRamp.calls usedState = [] := by
  have h : Operation.Refused longRamp.operations (.rampPastEnd "m" 2 1) :=
    .ramps (d := ⟨2, "basename", true⟩) rfl rfl
  obtain ⟨hiff, htouches⟩ := refusal longRamp (.rampPastEnd "m" 2 1) usedState
  obtain ⟨⟨told, hrun⟩, hcalls⟩ := htouches h
  exact ⟨hiff.1 h, told, hrun, hcalls⟩

end Job

end SceneScript
