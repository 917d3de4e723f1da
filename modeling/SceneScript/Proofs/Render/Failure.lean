import SceneScript.Proofs.Render.Journal
import SceneScript.Proofs.Render.Step

/-!
# What a failed operation did

The counterpart of `Performs` for operations that stop at a fault (`Render.Fails`, `perform_error`).
An operation that asks nothing of the output may fail by itself, and then it has left all but the
canvas and the log alone; it fails so with every output (`perform_eq_of_not_isRequest`). A request
fails because the output answered with a fault, and `save` makes a fault of the value one of its
operand.
-/

namespace SceneScript

/-- The fault of an operation whose request was answered with a fault. -/
def Operation.raised {α : Type} : Operation α → Fault → Fault
  | .save file, why => if why.isValueFault then .cannotSave file why else why
  | _, why => why

/-- What a failed operation did to the state `s` of a run: its fault, and the state that it left. -/
inductive Render.Fails {α σ : Type} (out : Output σ) :
    Operation α → RenderState α σ → Fault → RenderState α σ → Prop
  | raises : op.isRequest = false →
      Fails out op s fault { s with canvas := canvas, notes := notes }
  | save : (out.save s.canvas.picture file s.output).result = .error why →
      Fails out (.save file) s (Operation.raised (.save file : Operation α) why)
        { s with
          output := (out.save s.canvas.picture file s.output).state
          notes := s.notes ++
            ((out.save s.canvas.picture file s.output).written.map Note.wrote).toArray }
  | display : (out.display s.canvas.picture s.output).result = .error why →
      Fails out .display s why
        { s with
          output := (out.display s.canvas.picture s.output).state
          notes := s.notes ++
            ((out.display s.canvas.picture s.output).written.map Note.wrote).toArray }

namespace Render

section
variable {α σ β γ : Type} {s s' : RenderState α σ} {fault : Fault}

/-- A sequence of steps fails when its first step does, or else its rest. -/
theorem bind_error {x : Render α σ β} {f : β → Render α σ γ} :
    (x >>= f) s = .error fault s' ↔
      x s = .error fault s' ∨ ∃ b s₁, x s = .ok b s₁ ∧ f b s₁ = .error fault s' := by
  show EStateM.bind x f s = _ ↔ _
  unfold EStateM.bind
  cases x s with
  | ok b s₁ =>
    refine ⟨fun h => .inr ⟨b, s₁, rfl, h⟩, ?_⟩
    rintro (h | ⟨_, _, h, hf⟩)
    · cases h
    · cases h
      exact hf
  | error e s₁ => simp

/-- A result alone is no fault. -/
@[simp] theorem pure_error {b : β} : ¬ (pure b : Render α σ β) s = .error fault s' := nofun

/-- A change of the state does not fail. -/
@[simp] theorem modify_error {f : RenderState α σ → RenderState α σ} :
    ¬ (modify f : Render α σ Unit) s = .error fault s' := nofun

/-- Reading the state does not fail. -/
@[simp] theorem read_error {f : RenderState α σ → β} :
    ¬ (modifyGet fun s => (f s, s) : Render α σ β) s = .error fault s' := nofun

/-- Adding notes does not fail. -/
@[simp] theorem note_error {ns : List (Note α)} :
    ¬ (note ns : Render α σ Unit) s = .error fault s' := nofun

/-- A fault leaves the state. -/
@[simp] theorem ofExcept_error {x : Except Fault β} :
    (ofExcept x : Render α σ β) s = .error fault s' ↔ x = .error fault ∧ s = s' := by
  cases x with
  | ok a =>
    show EStateM.Result.ok a s = .error fault s' ↔ _
    simp
  | error e =>
    show EStateM.Result.error e s = .error fault s' ↔ _
    simp

/-- A request fails with the fault of the output's answer, which becomes its state all the same. -/
theorem ask_error {request : σ → Reply σ β} :
    (ask request : Render α σ β) s = .error fault s' ↔
      (request s.output).result = .error fault ∧
      { s with
        output := (request s.output).state
        notes := s.notes ++ ((request s.output).written.map Note.wrote).toArray } = s' := by
  unfold ask
  dsimp only
  cases (request s.output).result <;> simp

/-- A drawing that fails may have put fragments on the canvas. -/
theorem draw_error [Scalar α] {kind : ItemKind} {points : List (Vec4 α)}
    {drawing : Extent → List (Vec4 α) → Drawing α} :
    draw kind points drawing s = .error fault s' ↔
      (drawing s.canvas.extent points).outcome = .error fault ∧
        { s with canvas := s.canvas.paint (drawing s.canvas.extent points).fragments } = s' := by
  unfold draw
  dsimp only
  cases (drawing s.canvas.extent points).outcome <;> simp

/-- A factor that is missing leaves the state. -/
theorem factor_error {knob : Option String} :
    (factor knob : Render α σ (Option α)) s = .error fault s' ↔
      s.knobs.factor knob = .error fault ∧ s = s' := by
  unfold factor
  cases s.knobs.factor knob <;> simp

/-- A scope that cannot be closed leaves the state. -/
theorem closeScope_error :
    (closeScope : Render α σ Unit) s = .error fault s' ↔ s.stack.pop.1 = .error fault ∧ s = s' := by
  unfold closeScope ScopeStack.pop
  cases s.stack.below <;> simp

end

section
variable {α σ : Type} [Scalar α] {settings : Settings α} {good out : Output σ}
  {op : Operation α} {s s' : RenderState α σ} {fault : Fault}

/-- A solid that cannot be drawn leaves all but the canvas. -/
theorem solid_error {mesh : Mesh α} (hop : op.isRequest = false)
    (h : solid settings mesh s = .error fault s') : Fails out op s fault s' := by
  simp only [solid, bind_error, read_error, read_ok, draw_error, false_or] at h
  obtain ⟨_, _, ⟨rfl, rfl⟩, _, rfl⟩ := h
  exact .raises hop

variable [Trig α]

/-- An operation that asks for nothing is the same with every output. -/
theorem perform_eq_of_not_isRequest (h : op.isRequest = false) :
    perform settings good op = perform settings out op := by
  cases op with
  | save | display => cases h
  | _ => rfl

/-- What a failed operation did is one of the cases of `Fails`. -/
theorem perform_error (h : perform settings out op s = .error fault s') :
    Fails out op s fault s' := by
  cases op with
  | push => cases h
  | pop =>
    obtain ⟨-, rfl⟩ := closeScope_error.1 h
    exact .raises rfl
  | move | scale =>
    simp only [perform, transform, bind_error, factor_error, note_error, modify_error, and_false,
      exists_false, or_false] at h
    obtain ⟨-, rfl⟩ := h
    exact .raises rfl
  | rotate =>
    simp only [perform, transform, bind_error, factor_error, factor_ok, note_error, note_ok,
      ofExcept_error, modify_error, false_or, and_false, exists_false, or_false] at h
    rcases h with ⟨-, rfl⟩ | ⟨_, _, ⟨-, rfl⟩, _, _, rfl, -, rfl⟩
    · exact .raises rfl
    · exact .raises rfl
  | box => exact solid_error rfl h
  | sphere | torus =>
    simp only [perform, bind_error, ofExcept_error, ofExcept_ok] at h
    rcases h with ⟨-, rfl⟩ | ⟨_, _, ⟨-, rfl⟩, h⟩
    · exact .raises rfl
    · exact solid_error rfl h
  | line =>
    simp only [perform, edges, bind_error, read_error, read_ok, draw_error, false_or] at h
    obtain ⟨_, _, ⟨rfl, rfl⟩, _, rfl⟩ := h
    exact .raises rfl
  | save file =>
    simp only [perform, save, picture, bind_error, read_error, read_ok, ask_error, modify_error,
      and_false, exists_false, or_false, false_or] at h
    obtain ⟨_, _, ⟨rfl, rfl⟩, hr, rfl⟩ := h
    simp only [Reply.mapFault] at hr
    cases hw : (out.save s.canvas.picture file s.output).result with
    | ok path => rw [hw] at hr; cases hr
    | error why => rw [hw] at hr; cases hr; exact .save hw
  | display =>
    simp only [perform, picture, bind_error, read_error, read_ok, ask_error, false_or] at h
    obtain ⟨_, _, ⟨rfl, rfl⟩, hr, rfl⟩ := h
    exact .display hr
  | frames | basename | vary => cases h

end

end Render

end SceneScript
