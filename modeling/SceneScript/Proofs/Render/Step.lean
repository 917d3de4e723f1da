import SceneScript.Proofs.Raster.Cells
import SceneScript.Render.Execute

/-!
# What a successful operation did

A step of a run either gives a result or stops at a fault (`Render`). This module says, once, what
an operation did when it succeeded: `Render.Performs` has one case for each way in which an
operation acts on the state, and `perform_ok` shows that these are all. What holds of a whole
operation list then follows by induction over the list, since `execute_cons_ok` peels off its first
operation. `Operation.Moves` and `Operation.Outlines` say what operations mean on their own: the
transform that one of them is under the values of the knobs, and the points of the shape that one of
them draws.
-/

namespace SceneScript

section
variable {α : Type} [Scalar α] [Trig α]

/-- The transform that an operation is when the knobs have the values of `k`: its operands are
multiplied by the value of the knob that it names, and are taken as they stand if it names none. -/
inductive Operation.Moves (k : Knobs α) : Operation α → Transform α → Prop
  | move : Moves k (.move v none) (.translation v)
  | moveBy : k.lookup? name = some f →
      Moves k (.move v (some name)) (.translation (v.map (· * f)))
  | scale : Moves k (.scale v none) (.scaling v)
  | scaleBy : k.lookup? name = some f →
      Moves k (.scale v (some name)) (.scaling (v.map (· * f)))
  | rotate : Trig.degrees a = .ok (c, s) → Moves k (.rotate axis a none) (.rotation axis c s)
  | rotateBy : k.lookup? name = some f → Trig.degrees (a * f) = .ok (c, s) →
      Moves k (.rotate axis a (some name)) (.rotation axis c s)

/-- The points of the shape that an operation draws, in its own coordinates, with the kind of their
items. Spheres and tori have `step` meridians or rings. -/
inductive Operation.Outlines (step : Int) : Operation α → ItemKind → List (Vec3 α) → Prop
  | box : Outlines step (.box corner size) .triangles (Box.mesh corner size).points
  | sphere : Sphere.ofStep centre radius step = .ok mesh →
      Outlines step (.sphere centre radius) .triangles mesh.points
  | torus : Torus.ofStep centre tube ring step = .ok mesh →
      Outlines step (.torus centre tube ring) .triangles mesh.points
  | line : Outlines step (.line p q) .segments [p, q]

/-- The call that draws points of a kind. -/
def Settings.request (settings : Settings α) :
    ItemKind → List (Vec4 α) → DrawRequest α
  | .triangles, points => .triangles settings.surface points
  | .segments, points => .segments settings.lineColour points

end

/-- The homogeneous points of a shape in another coordinate system. -/
def Transform.points {α : Type} [Scalar α] (m : Transform α) (ps : List (Vec3 α)) :
    List (Vec4 α) :=
  ps.map fun p => m.apply p.homogeneous

section
variable {α σ : Type} [Scalar α] [Trig α]

/-- What a successful operation did to the state `s` of a run: the new state in terms of the old. A
transform acts on the top of the stack, a shape on the canvas, and a request on the output. -/
inductive Render.Performs (settings : Settings α) (out : Output σ) :
    Operation α → RenderState α σ → RenderState α σ → Prop
  | push : Performs settings out .push s { s with stack := s.stack.push }
  | pop : s.stack.below = next :: rest →
      Performs settings out .pop s { s with stack := ⟨next, rest⟩ }
  | moves : op.Moves s.knobs m →
      Performs settings out op s
        { s with stack := s.stack.apply m, notes := s.notes ++ [told].toArray }
  | draws : op.Outlines settings.step kind points →
      (settings.request kind (s.stack.top.points points)).drawing s.canvas.extent = d →
      d.outcome = .ok n →
      Performs settings out op s
        { s with
          canvas := s.canvas.paint d.fragments
          draws := s.draws.push ⟨kind, s.stack.top.points points, n⟩ }
  | save : (out.save s.canvas.picture file s.output).result = .ok path →
      Performs settings out (.save file) s
        { s with
          output := (out.save s.canvas.picture file s.output).state
          saved := s.saved.push path
          notes := s.notes ++
            ((out.save s.canvas.picture file s.output).written.map Note.wrote).toArray }
  | display : (out.display s.canvas.picture s.output).result = .ok () →
      Performs settings out .display s
        { s with
          output := (out.display s.canvas.picture s.output).state
          notes := s.notes ++
            ((out.display s.canvas.picture s.output).written.map Note.wrote).toArray }
  | directive : op.isDirective = true → Performs settings out op s s

end

namespace Render

section
variable {α σ β γ : Type}

/-- A sequence of steps succeeds when each of them does. -/
theorem bind_ok {x : Render α σ β} {f : β → Render α σ γ} {s s' : RenderState α σ} {c : γ} :
    (x >>= f) s = .ok c s' ↔ ∃ b s₁, x s = .ok b s₁ ∧ f b s₁ = .ok c s' := by
  constructor
  · intro h
    cases hx : x s with
    | ok b s₁ => exact ⟨b, s₁, rfl, by simpa [bind, EStateM.bind, hx] using h⟩
    | error e s₁ => simp [bind, EStateM.bind, hx] at h
  · rintro ⟨b, s₁, hx, hf⟩
    simpa [bind, EStateM.bind, hx] using hf

/-- Behind a step that succeeds a sequence goes on from its result and state. -/
theorem bind_of_ok {x : Render α σ β} {f : β → Render α σ γ} {s s' : RenderState α σ} {b : β}
    (h : x s = .ok b s') : (x >>= f) s = f b s' := by
  show EStateM.bind x f s = _
  rw [EStateM.bind, h]

/-- A step that has its result already leaves the state. -/
@[simp] theorem pure_ok {b c : β} {s s' : RenderState α σ} :
    (pure b : Render α σ β) s = .ok c s' ↔ b = c ∧ s = s' := by
  simp [pure, EStateM.pure]

/-- A change of the state succeeds and does nothing else. -/
@[simp] theorem modify_ok {f : RenderState α σ → RenderState α σ} {s s' : RenderState α σ}
    {u : Unit} : (modify f : Render α σ Unit) s = .ok u s' ↔ f s = s' := by
  show EStateM.Result.ok () (f s) = .ok u s' ↔ _
  simp

/-- Reading the state succeeds and leaves it. -/
@[simp] theorem read_ok {f : RenderState α σ → β} {s s' : RenderState α σ} {b : β} :
    (modifyGet fun s => (f s, s) : Render α σ β) s = .ok b s' ↔ f s = b ∧ s = s' := by
  show EStateM.Result.ok (f s) s = .ok b s' ↔ _
  simp

/-- A result that may be a fault is a step that leaves the state. -/
@[simp] theorem ofExcept_ok {x : Except Fault β} {s s' : RenderState α σ} {b : β} :
    (ofExcept x : Render α σ β) s = .ok b s' ↔ x = .ok b ∧ s = s' := by
  cases x with
  | ok a =>
    show EStateM.Result.ok a s = .ok b s' ↔ _
    simp
  | error e =>
    show EStateM.Result.error e s = .ok b s' ↔ _
    simp

/-- Adding notes succeeds. -/
@[simp] theorem note_ok {ns : List (Note α)} {s s' : RenderState α σ} {u : Unit} :
    (note ns : Render α σ Unit) s = .ok u s' ↔ { s with notes := s.notes ++ ns.toArray } = s' :=
  modify_ok

/-- A request that succeeds has the result of the output's answer, which becomes its state. -/
theorem ask_ok {request : σ → Reply σ β} {s s' : RenderState α σ} {b : β} :
    (ask request : Render α σ β) s = .ok b s' ↔ (request s.output).result = .ok b ∧
      { s with
        output := (request s.output).state
        notes := s.notes ++ ((request s.output).written.map Note.wrote).toArray } = s' := by
  unfold ask
  dsimp only
  cases (request s.output).result <;> simp

end

section
variable {α σ : Type} {s s' : RenderState α σ}

/-- A drawing that succeeds puts its fragments on the canvas and is told. -/
theorem draw_ok [Scalar α] {kind : ItemKind} {points : List (Vec4 α)}
    {drawing : Extent → List (Vec4 α) → Drawing α} :
    draw kind points drawing s = .ok () s' ↔
      ∃ n, (drawing s.canvas.extent points).outcome = .ok n ∧
        { s with
          canvas := s.canvas.paint (drawing s.canvas.extent points).fragments
          draws := s.draws.push ⟨kind, points, n⟩ } = s' := by
  unfold draw
  dsimp only
  cases (drawing s.canvas.extent points).outcome <;> simp

/-- The factor of a transform is there when its knob has a value or it names none. -/
theorem factor_ok {knob : Option String} {f : Option α} :
    (factor knob : Render α σ (Option α)) s = .ok f s' ↔ s.knobs.factor knob = .ok f ∧ s = s' := by
  unfold factor
  cases s.knobs.factor knob <;> simp

/-- The value of a knob is the factor of the transforms that name it. -/
theorem factor_some {k : Knobs α} {name : String} {f : Option α}
    (h : k.factor (some name) = .ok f) : ∃ v, f = some v ∧ k.lookup? name = some v := by
  cases hv : k.lookup? name with
  | none => simp [Knobs.factor, Knobs.lookup, hv, Except.map] at h
  | some v =>
    simp only [Knobs.factor, Knobs.lookup, hv, Except.map, Except.ok.injEq] at h
    exact ⟨v, h.symm, rfl⟩

end

section
variable {α σ : Type} [Scalar α] [Trig α] {settings : Settings α} {out : Output σ}
  {s s' : RenderState α σ}

/-- A solid that is drawn has its points drawn in the coordinates of the top. -/
theorem solid_ok {op : Operation α} {mesh : Mesh α}
    (ho : op.Outlines settings.step .triangles mesh.points)
    (h : solid settings mesh s = .ok () s') : Performs settings out op s s' := by
  simp only [solid, bind_ok, read_ok, draw_ok] at h
  obtain ⟨_, _, ⟨rfl, rfl⟩, n, hn, rfl⟩ := h
  exact .draws ho rfl hn

/-- What a successful operation did is one of the cases of `Performs`. -/
theorem perform_ok {op : Operation α} (h : perform settings out op s = .ok () s') :
    Performs settings out op s s' := by
  cases op with
  | push =>
    obtain rfl := modify_ok.1 h
    exact .push
  | pop =>
    simp only [perform, closeScope, ScopeStack.pop] at h
    cases hb : s.stack.below with
    | nil => rw [hb] at h; cases h
    | cons next rest => rw [hb] at h; cases h; exact .pop hb
  | move v knob =>
    simp only [perform, transform, bind_ok, factor_ok, note_ok, modify_ok] at h
    obtain ⟨f, _, ⟨hf, rfl⟩, _, _, rfl, rfl⟩ := h
    cases knob with
    | none => cases hf; exact .moves .move
    | some name =>
      obtain ⟨x, rfl, hx⟩ := factor_some hf
      exact .moves (.moveBy hx)
  | scale v knob =>
    simp only [perform, transform, bind_ok, factor_ok, note_ok, modify_ok] at h
    obtain ⟨f, _, ⟨hf, rfl⟩, _, _, rfl, rfl⟩ := h
    cases knob with
    | none => cases hf; exact .moves .scale
    | some name =>
      obtain ⟨x, rfl, hx⟩ := factor_some hf
      exact .moves (.scaleBy hx)
  | rotate axis a knob =>
    simp only [perform, transform, Transform.rotationByDegrees, bind_ok, factor_ok, note_ok,
      ofExcept_ok, modify_ok] at h
    obtain ⟨f, _, ⟨hf, rfl⟩, _, _, rfl, m, _, ⟨hm, rfl⟩, rfl⟩ := h
    cases hd : Trig.degrees (resolved f a) with
    | error e => rw [hd] at hm; cases hm
    | ok p =>
      rw [hd] at hm
      cases hm
      cases knob with
      | none => cases hf; exact .moves (.rotate hd)
      | some name =>
        obtain ⟨x, rfl, hx⟩ := factor_some hf
        exact .moves (.rotateBy hx hd)
  | box corner size => exact solid_ok .box h
  | sphere centre radius =>
    simp only [perform, bind_ok, ofExcept_ok] at h
    obtain ⟨mesh, _, ⟨hm, rfl⟩, h⟩ := h
    exact solid_ok (.sphere hm) h
  | torus centre tube ring =>
    simp only [perform, bind_ok, ofExcept_ok] at h
    obtain ⟨mesh, _, ⟨hm, rfl⟩, h⟩ := h
    exact solid_ok (.torus hm) h
  | line p q =>
    simp only [perform, edges, bind_ok, read_ok, draw_ok] at h
    obtain ⟨_, _, ⟨rfl, rfl⟩, n, hn, rfl⟩ := h
    exact .draws .line rfl hn
  | save file =>
    simp only [perform, save, picture, bind_ok, read_ok, ask_ok, modify_ok] at h
    obtain ⟨_, _, ⟨rfl, rfl⟩, path, _, ⟨hp, rfl⟩, rfl⟩ := h
    refine .save ?_
    simp only [Reply.mapFault] at hp
    cases hr : (out.save s.canvas.picture file s.output).result with
    | ok p => rw [hr] at hp; cases hp; rfl
    | error f => rw [hr] at hp; cases hp
  | display =>
    simp only [perform, picture, bind_ok, read_ok, ask_ok] at h
    obtain ⟨_, _, ⟨rfl, rfl⟩, hr, rfl⟩ := h
    exact .display hr
  | frames | basename | vary =>
    obtain ⟨-, rfl⟩ := pure_ok.1 h
    exact .directive rfl

/-- Executing a list is performing its first operation and executing the rest. -/
theorem execute_cons {op : Operation α} {ops : List (Operation α)} :
    execute settings out (op :: ops) = (do
      perform settings out op
      execute settings out ops) := rfl

/-- A list is executed when its first operation is performed and the rest is executed. -/
theorem execute_cons_ok {op : Operation α} {ops : List (Operation α)} :
    execute settings out (op :: ops) s = .ok () s' ↔
      ∃ s₁, perform settings out op s = .ok () s₁ ∧ execute settings out ops s₁ = .ok () s' := by
  rw [execute_cons, bind_ok]
  exact ⟨fun ⟨_, s₁, h₁, h₂⟩ => ⟨s₁, h₁, h₂⟩, fun ⟨s₁, h₁, h₂⟩ => ⟨(), s₁, h₁, h₂⟩⟩

/-- Executing no operation leaves the state. -/
theorem execute_nil_ok : execute settings out [] s = .ok () s' ↔ s = s' := by
  show (pure () : Render α σ Unit) s = _ ↔ _
  simp

/-- Executing a list and another is executing one behind the other. -/
theorem execute_append_ok {ops ops' : List (Operation α)} :
    execute settings out (ops ++ ops') s = .ok () s' ↔
      ∃ s₁, execute settings out ops s = .ok () s₁ ∧ execute settings out ops' s₁ = .ok () s' := by
  induction ops generalizing s with
  | nil =>
    simp only [List.nil_append, execute_nil_ok]
    exact ⟨fun h => ⟨s, rfl, h⟩, fun ⟨_, hs, h⟩ => hs ▸ h⟩
  | cons op ops ih =>
    simp only [List.cons_append, execute_cons_ok, ih]
    constructor
    · rintro ⟨s₁, hop, s₂, hops, h⟩
      exact ⟨s₂, ⟨s₁, hop, hops⟩, h⟩
    · rintro ⟨s₂, ⟨s₁, hop, hops⟩, h⟩
      exact ⟨s₁, hop, s₂, hops, h⟩

end

end Render

end SceneScript
