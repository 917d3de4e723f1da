import SceneScript.Proofs.Render.Relate
import SceneScript.Proofs.Render.Step

/-!
# What an execution depends on

What an operation draws, and where, depends on the stack, the values of the knobs and the size of
the canvas, and not on what is on the canvas (`RenderState.SamePlace`). So from two states in the
same place, operations that succeed draw the same, whatever the outputs are
(`Render.drawsAlike_execute`).

Two states of a run show the same scene if they have the same stack, the same canvas and the same
values of the knobs (`RenderState.SameScene`); the order in which the knobs were given and what is
told of the run do not count. From states that show the same scene, operations that succeed lead to
such states again (`sameScene_execute`). If the outputs are the same, too, then one of the
executions succeeds exactly if the other does, and a fault is the same (`blind_execute`).
-/

namespace SceneScript

section
variable {α σ τ : Type}

/-- Two states, possibly of different outputs, in which the next operations draw the same shapes in
the same places. -/
structure RenderState.SamePlace (s : RenderState α σ) (s' : RenderState α τ) : Prop where
  stack : s.stack = s'.stack
  extent : s.canvas.extent = s'.canvas.extent
  knobs : ∀ name, s.knobs.lookup? name = s'.knobs.lookup? name

/-- Two states, possibly of different outputs, in which the next operations mean the same. -/
structure RenderState.SameScene (s : RenderState α σ) (s' : RenderState α τ) : Prop where
  stack : s.stack = s'.stack
  canvas : s.canvas = s'.canvas
  knobs : ∀ name, s.knobs.lookup? name = s'.knobs.lookup? name

/-- States that show the same scene are in the same place. -/
theorem RenderState.SameScene.samePlace {s : RenderState α σ} {s' : RenderState α τ}
    (h : s.SameScene s') : s.SamePlace s' where
  stack := h.stack
  extent := congrArg Canvas.extent h.canvas
  knobs := h.knobs

/-- Two states that show the same scene and have the same state of the output. -/
structure RenderState.Agrees (s s' : RenderState α σ) : Prop extends s.SameScene s' where
  output : s.output = s'.output

end

namespace Operation

variable {α : Type} [Scalar α] [Trig α] {op : Operation α} {k k' : Knobs α} {m m' : Transform α}

/-- An operation is one transform under the values of the knobs. -/
theorem Moves.unique (h : op.Moves k m) (h' : op.Moves k' m')
    (hk : ∀ name, k.lookup? name = k'.lookup? name) : m = m' := by
  cases h with
  | move => cases h'; rfl
  | scale => cases h'; rfl
  | moveBy hf =>
    cases h' with
    | moveBy hf' => cases (hf.symm.trans (hk _)).trans hf'; rfl
  | scaleBy hf =>
    cases h' with
    | scaleBy hf' => cases (hf.symm.trans (hk _)).trans hf'; rfl
  | rotate hd =>
    cases h' with
    | rotate hd' => cases hd.symm.trans hd'; rfl
  | rotateBy hf hd =>
    cases h' with
    | rotateBy hf' hd' =>
      cases (hf.symm.trans (hk _)).trans hf'
      cases hd.symm.trans hd'
      rfl

/-- An operation draws one shape. -/
theorem Outlines.unique {step : Int} {kind kind' : ItemKind} {ps ps' : List (Vec3 α)}
    (h : op.Outlines step kind ps) (h' : op.Outlines step kind' ps') : kind = kind' ∧ ps = ps' := by
  cases h with
  | box => cases h'; exact ⟨rfl, rfl⟩
  | line => cases h'; exact ⟨rfl, rfl⟩
  | sphere hm =>
    cases h' with
    | sphere hm' => cases hm.symm.trans hm'; exact ⟨rfl, rfl⟩
  | torus hm =>
    cases h' with
    | torus hm' => cases hm.symm.trans hm'; exact ⟨rfl, rfl⟩

end Operation

namespace Render

section
variable {α σ τ : Type} [Scalar α]

/-- What was done between `s` and `t` and what was done between `s'` and `t'` have led to the same
place, and the same was drawn. -/
structure DrawsAlike (s t : RenderState α σ) (s' t' : RenderState α τ) : Prop where
  place : t.SamePlace t'
  canvas : ∃ fs, t.canvas = s.canvas.paint fs ∧ t'.canvas = s'.canvas.paint fs
  draws : ∃ calls, t.draws = s.draws ++ calls ∧ t'.draws = s'.draws ++ calls

namespace DrawsAlike

variable {s t u : RenderState α σ} {s' t' u' : RenderState α τ}

/-- Nothing was drawn. -/
theorem of_eq (h : t.SamePlace t') (hc : t.canvas = s.canvas) (hc' : t'.canvas = s'.canvas)
    (hd : t.draws = s.draws) (hd' : t'.draws = s'.draws) : DrawsAlike s t s' t' where
  place := h
  canvas := ⟨[], hc, hc'⟩
  draws := ⟨#[], by rw [hd, Array.append_empty], by rw [hd', Array.append_empty]⟩

/-- The same was drawn, and then the same again. -/
theorem trans (h : DrawsAlike s t s' t') (h' : DrawsAlike t u t' u') : DrawsAlike s u s' u' where
  place := h'.place
  canvas := by
    obtain ⟨fs, hfs, hfs'⟩ := h.canvas
    obtain ⟨gs, hgs, hgs'⟩ := h'.canvas
    exact ⟨fs ++ gs, by rw [hgs, hfs, Canvas.paint_append], by rw [hgs', hfs', Canvas.paint_append]⟩
  draws := by
    obtain ⟨calls, hc, hc'⟩ := h.draws
    obtain ⟨more, hm, hm'⟩ := h'.draws
    exact ⟨calls ++ more, by rw [hm, hc, Array.append_assoc], by rw [hm', hc', Array.append_assoc]⟩

/-- What is drawn on the same scene makes the same scene. -/
theorem sameScene (h : DrawsAlike s t s' t') (hs : s.SameScene s') : t.SameScene t' := by
  obtain ⟨place, ⟨fs, hfs, hfs'⟩, -⟩ := h
  exact ⟨place.stack, by rw [hfs, hfs', hs.canvas], place.knobs⟩

end DrawsAlike

end

section
variable {α σ τ : Type} [Scalar α] [Trig α] {settings : Settings α} {out : Output σ}
  {out' : Output τ} {op : Operation α} {s t : RenderState α σ} {s' t' : RenderState α τ}

/-- What a transform did: the top is composed with it, and it is told. -/
theorem Performs.exists_eq_of_moves {k : Knobs α} {m : Transform α} (hm : op.Moves k m)
    (h : Performs settings out op s t) : ∃ m' told, op.Moves s.knobs m' ∧
      t = { s with stack := s.stack.apply m', notes := s.notes ++ told } := by
  cases h with
  | moves hm' => exact ⟨_, _, hm', rfl⟩
  | draws ho => cases hm <;> cases ho
  | directive hd => cases hm <;> cases hd
  | push | pop | save | display => cases hm

/-- What a shape did: its call is told, and the fragments of its drawing are on the canvas. -/
theorem Performs.exists_eq_of_outlines {kind : ItemKind} {ps : List (Vec3 α)}
    (ho : op.Outlines settings.step kind ps) (h : Performs settings out op s t) : ∃ n,
      ((settings.request kind (s.stack.top.points ps)).drawing s.canvas.extent).outcome = .ok n ∧
      t = { s with
        canvas := s.canvas.paint
          ((settings.request kind (s.stack.top.points ps)).drawing s.canvas.extent).fragments
        draws := s.draws.push ⟨kind, s.stack.top.points ps, n⟩ } := by
  cases h with
  | moves hm => cases ho <;> cases hm
  | draws ho' hd hn =>
    obtain ⟨rfl, rfl⟩ := ho.unique ho'
    subst hd
    exact ⟨_, hn, rfl⟩
  | directive hd => cases ho <;> cases hd
  | push | pop | save | display => cases ho

/-- What a directive did. -/
theorem Performs.of_directive (hd : op.isDirective = true) (h : Performs settings out op s t) :
    t = s := by
  cases h with
  | moves hm => cases hm <;> cases hd
  | draws ho => cases ho <;> cases hd
  | directive => rfl
  | push | pop | save | display => cases hd

/-- Operations that succeed in the same place draw the same and lead to the same place. -/
theorem Performs.drawsAlike (h : Performs settings out op s t)
    (h' : Performs settings out' op s' t') (hs : s.SamePlace s') : DrawsAlike s t s' t' := by
  cases h with
  | push =>
    cases h' with
    | push =>
      have ht := congrArg ScopeStack.push hs.stack
      exact .of_eq ⟨ht, hs.extent, hs.knobs⟩ rfl rfl rfl rfl
    | moves hm => cases hm
    | draws ho => cases ho
    | directive hd => cases hd
  | pop hb =>
    cases h' with
    | pop hb' =>
      rw [hs.stack, hb'] at hb
      cases hb
      exact .of_eq ⟨rfl, hs.extent, hs.knobs⟩ rfl rfl rfl rfl
    | moves hm => cases hm
    | draws ho => cases ho
    | directive hd => cases hd
  | moves hm =>
    obtain ⟨m', _, hm', rfl⟩ := h'.exists_eq_of_moves hm
    obtain rfl := hm'.unique hm fun name => (hs.knobs name).symm
    have ht : s.stack.apply m' = s'.stack.apply m' := by rw [hs.stack]
    exact .of_eq ⟨ht, hs.extent, hs.knobs⟩ rfl rfl rfl rfl
  | draws ho hd hn =>
    obtain ⟨n', hn', rfl⟩ := h'.exists_eq_of_outlines ho
    rw [hs.stack, hs.extent] at hd
    rw [hd, hn] at hn'
    cases hn'
    refine ⟨⟨hs.stack, ?_, hs.knobs⟩, ⟨_, rfl, by rw [hd]⟩, _, Array.push_eq_append, ?_⟩
    · rw [Canvas.extent_paint, Canvas.extent_paint, hs.extent]
    · rw [hs.stack]
      exact Array.push_eq_append
  | save =>
    cases h' with
    | save => exact .of_eq ⟨hs.stack, hs.extent, hs.knobs⟩ rfl rfl rfl rfl
    | moves hm => cases hm
    | draws ho => cases ho
    | directive hd => cases hd
  | display =>
    cases h' with
    | display => exact .of_eq ⟨hs.stack, hs.extent, hs.knobs⟩ rfl rfl rfl rfl
    | moves hm => cases hm
    | draws ho => cases ho
    | directive hd => cases hd
  | directive hd =>
    obtain rfl := h'.of_directive hd
    exact .of_eq hs rfl rfl rfl rfl

/-- Executions that succeed in the same place draw the same and lead to the same place. -/
theorem drawsAlike_execute {ops : List (Operation α)} {s t : RenderState α σ}
    {s' t' : RenderState α τ} (h : execute settings out ops s = .ok () t)
    (h' : execute settings out' ops s' = .ok () t') (hs : s.SamePlace s') :
    DrawsAlike s t s' t' := by
  induction ops generalizing s s' with
  | nil =>
    obtain rfl := execute_nil_ok.1 h
    obtain rfl := execute_nil_ok.1 h'
    exact .of_eq hs rfl rfl rfl rfl
  | cons op ops ih =>
    obtain ⟨s₁, hp, h⟩ := execute_cons_ok.1 h
    obtain ⟨s₁', hp', h'⟩ := execute_cons_ok.1 h'
    have hop := (perform_ok hp).drawsAlike (perform_ok hp') hs
    exact hop.trans (ih h h' hop.place)

/-- Executions that succeed from states that show the same scene lead to such states. -/
theorem sameScene_execute {ops : List (Operation α)} {s t : RenderState α σ}
    {s' t' : RenderState α τ} (h : execute settings out ops s = .ok () t)
    (h' : execute settings out' ops s' = .ok () t') (hs : s.SameScene s') : t.SameScene t' :=
  (drawsAlike_execute h h' hs.samePlace).sameScene hs

/-- An execution keeps the knobs, and the size and the background of the canvas. -/
theorem execute_keeps {ops : List (Operation α)} {s t : RenderState α σ}
    (h : execute settings out ops s = .ok () t) :
    t.knobs = s.knobs ∧ t.canvas.clear = s.canvas.clear := by
  induction ops generalizing s with
  | nil =>
    obtain rfl := execute_nil_ok.1 h
    exact ⟨rfl, rfl⟩
  | cons op ops ih =>
    obtain ⟨s₁, hp, h⟩ := execute_cons_ok.1 h
    obtain ⟨hk, hc⟩ := ih h
    have hstep : s₁.knobs = s.knobs ∧ s₁.canvas.clear = s.canvas.clear := by
      cases perform_ok hp with
      | draws =>
        refine ⟨rfl, ?_⟩
        rw [Canvas.clear_eq_blank, Canvas.extent_paint, Canvas.background_paint]
        rfl
      | _ => exact ⟨rfl, rfl⟩
    exact ⟨hk.trans hstep.1, hc.trans hstep.2⟩

end

/-! ## Agreeing outcomes -/

section
variable {α σ β γ : Type}

/-- Outcomes of a step that differ at most in what is told of the run. -/
inductive SameOutcome :
    EStateM.Result Fault (RenderState α σ) β → EStateM.Result Fault (RenderState α σ) β → Prop
  | ok : t.Agrees t' → SameOutcome (.ok b t) (.ok b t')
  | error : t.Agrees t' → SameOutcome (.error fault t) (.error fault t')

/-- A step that cannot tell states apart that agree. -/
def Blind (x : Render α σ β) : Prop := ∀ s s', s.Agrees s' → SameOutcome (x s) (x s')

/-- Agreement is kept by steps that do the same. -/
theorem pairing_agrees {out : Output σ} :
    Pairing out out (RenderState.Agrees (α := α) (σ := σ)) where
  stack_eq h := h.stack
  canvas_eq h := h.canvas
  lookup?_eq h := h.knobs
  stack h _ := ⟨⟨rfl, h.canvas, h.knobs⟩, h.output⟩
  canvas h _ := ⟨⟨h.stack, rfl, h.knobs⟩, h.output⟩
  bindings h _ := by
    refine ⟨⟨h.stack, h.canvas, fun name => ?_⟩, h.output⟩
    simp only [Knobs.lookup?_merge, h.knobs]
  saved h _ := ⟨⟨h.stack, h.canvas, h.knobs⟩, h.output⟩
  draws h _ := ⟨⟨h.stack, h.canvas, h.knobs⟩, h.output⟩
  notes h _ := ⟨⟨h.stack, h.canvas, h.knobs⟩, h.output⟩
  save h _ _ := by
    rw [h.output]
    exact ⟨rfl, ⟨h.stack, h.canvas, h.knobs⟩, rfl⟩
  display h _ := by
    rw [h.output]
    exact ⟨rfl, ⟨h.stack, h.canvas, h.knobs⟩, rfl⟩
  assemble h _ := by
    rw [h.output]
    exact ⟨rfl, ⟨h.stack, h.canvas, h.knobs⟩, rfl⟩

/-- An execution has the same outcome in states that agree. -/
theorem blind_execute [Scalar α] [Trig α] {settings : Settings α} {out : Output σ}
    {ops : List (Operation α)} : Blind (execute settings out ops) := by
  intro s s' h
  have ho : Outcomes RenderState.Agrees (execute settings out ops s)
      (execute settings out ops s') := relates_execute pairing_agrees s s' h
  generalize execute settings out ops s = r at ho ⊢
  generalize execute settings out ops s' = r' at ho ⊢
  cases ho with
  | ok h => exact .ok h
  | error h => exact .error h

end

end Render

end SceneScript
