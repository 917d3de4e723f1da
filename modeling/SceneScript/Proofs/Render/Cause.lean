import SceneScript.Proofs.Render.Failure
import SceneScript.Proofs.Render.Frames

/-!
# Why a run stops

An operation that asks nothing of the output has few ways to fail, and each can be read off the
operation and the state that it is performed in (`Render.Raises`, `perform_error_iff`). A run stops
in an operation of some frame, when a frame is exported, or when the animation is assembled
(`Job.run_error`). `Job.upTo` is a run up to an operation; from there it stops as the operation does
(`Job.ComesTo.run_error`).
-/

namespace SceneScript

/-- The knob that an operation names, if it names one. -/
def Operation.knob? {α : Type} : Operation α → Option String
  | .move _ knob | .scale _ knob | .rotate _ _ knob => knob
  | _ => none

/-- A factor is missing when the knob has no value. -/
theorem Knobs.factor_error {α : Type} {k : Knobs α} {knob : Option String} {fault : Fault} :
    k.factor knob = .error fault ↔
      ∃ name, knob = some name ∧ k.lookup? name = none ∧ fault = .undefinedKnob name := by
  cases knob with
  | none => simp [factor]
  | some name =>
    cases hv : k.lookup? name with
    | none => simp [factor, lookup, hv, Except.map, eq_comm]
    | some v => simp [factor, lookup, hv, Except.map]

/-- What an operation that asks nothing of the output stops at in the state `s`: a scope to close
that was not opened, a knob without a value, an angle without a cosine, a grid that there is no
room for, or a side without a colour. -/
inductive Render.Raises {α σ : Type} [Scalar α] [Trig α] (settings : Settings α)
    (s : RenderState α σ) : Operation α → Fault → Prop
  | underflow : s.stack.below = [] → Raises settings s .pop .noMatchingPush
  | knob : op.knob? = some name → s.knobs.lookup? name = none →
      Raises settings s op (.undefinedKnob name)
  | angle : s.knobs.factor knob = .ok f → Trig.degrees (resolved f a) = .error fault →
      Raises settings s (.rotate axis a knob) fault
  | sphere : Sphere.ofStep centre radius settings.step = .error fault →
      Raises settings s (.sphere centre radius) fault
  | torus : Torus.ofStep centre tube ring settings.step = .error fault →
      Raises settings s (.torus centre tube ring) fault
  | drawing : op.Outlines settings.step kind points →
      ((settings.request kind (s.stack.top.points points)).drawing s.canvas.extent).outcome =
        .error fault →
      Raises settings s op fault

namespace Render

section
variable {α σ : Type} [Scalar α] {settings : Settings α} {out : Output σ} {op : Operation α}
  {s s' : RenderState α σ} {fault : Fault}

/-- A solid with a side without a colour cannot be drawn. -/
theorem exists_solid_error {mesh : Mesh α}
    (h : ((settings.request .triangles (s.stack.top.points mesh.points)).drawing
      s.canvas.extent).outcome = .error fault) : ∃ s', solid settings mesh s = .error fault s' := by
  simp only [solid, bind_error, read_error, read_ok, draw_error, false_or]
  exact ⟨_, _, _, ⟨rfl, rfl⟩, h, rfl⟩

variable [Trig α]

/-- A solid cannot be drawn when one of its sides has no colour. -/
theorem raises_of_solid {mesh : Mesh α} (ho : op.Outlines settings.step .triangles mesh.points)
    (h : solid settings mesh s = .error fault s') : Raises settings s op fault := by
  simp only [solid, bind_error, read_error, read_ok, draw_error, false_or] at h
  obtain ⟨_, _, ⟨rfl, rfl⟩, hd, -⟩ := h
  exact .drawing ho hd

/-- What stops an operation is one of the cases of `Raises`. -/
theorem raises_of_perform_error (hop : op.isRequest = false)
    (h : perform settings out op s = .error fault s') : Raises settings s op fault := by
  cases op with
  | push => cases h
  | pop =>
    obtain ⟨hpop, -⟩ := closeScope_error.1 h
    unfold ScopeStack.pop at hpop
    split at hpop
    · next hb => cases hpop; exact .underflow hb
    · cases hpop
  | move | scale =>
    simp only [perform, transform, bind_error, factor_error, note_error, modify_error, and_false,
      exists_false, or_false, Knobs.factor_error] at h
    obtain ⟨⟨name, rfl, hv, rfl⟩, -⟩ := h
    exact .knob rfl hv
  | rotate axis a knob =>
    simp only [perform, transform, bind_error, factor_error, factor_ok, note_error, note_ok,
      ofExcept_error, modify_error, false_or, and_false, exists_false, or_false,
      Knobs.factor_error] at h
    rcases h with ⟨⟨name, rfl, hv, rfl⟩, -⟩ | ⟨f, _, ⟨hf, -⟩, _, _, -, hr, -⟩
    · exact .knob rfl hv
    · refine .angle hf ?_
      unfold Transform.rotationByDegrees at hr
      cases hd : Trig.degrees (resolved f a) with
      | ok p => rw [hd] at hr; cases hr
      | error fault' => rw [hd] at hr; cases hr; rfl
  | box => exact raises_of_solid .box h
  | sphere =>
    simp only [perform, bind_error, ofExcept_error, ofExcept_ok] at h
    rcases h with ⟨hm, -⟩ | ⟨_, _, ⟨hm, rfl⟩, h⟩
    · exact .sphere hm
    · exact raises_of_solid (.sphere hm) h
  | torus =>
    simp only [perform, bind_error, ofExcept_error, ofExcept_ok] at h
    rcases h with ⟨hm, -⟩ | ⟨_, _, ⟨hm, rfl⟩, h⟩
    · exact .torus hm
    · exact raises_of_solid (.torus hm) h
  | line =>
    simp only [perform, edges, bind_error, read_error, read_ok, draw_error, false_or] at h
    obtain ⟨_, _, ⟨rfl, rfl⟩, hd, -⟩ := h
    exact .drawing .line hd
  | save | display => cases hop
  | frames | basename | vary => cases h

/-- In each of the cases of `Raises` the operation stops. -/
theorem Raises.exists_perform_error (h : Raises settings s op fault) :
    ∃ s', perform settings out op s = .error fault s' := by
  cases h with
  | underflow hb =>
    refine ⟨s, closeScope_error.2 ⟨?_, rfl⟩⟩
    rw [ScopeStack.pop, hb]
  | knob hk hv =>
    have hf := Knobs.factor_error.2 ⟨_, hk, hv, rfl⟩
    cases op with
    | move | scale | rotate => exact ⟨s, bind_error.2 (.inl (factor_error.2 ⟨hf, rfl⟩))⟩
    | _ => cases hk
  | angle hf hd =>
    simp only [perform, bind_error, factor_ok, note_ok, ofExcept_error]
    refine ⟨_, .inr ⟨_, _, ⟨hf, rfl⟩, .inr ⟨(), _, rfl, .inl ⟨?_, rfl⟩⟩⟩⟩
    rw [Transform.rotationByDegrees, hd]
    rfl
  | sphere hm | torus hm => exact ⟨s, bind_error.2 (.inl (ofExcept_error.2 ⟨hm, rfl⟩))⟩
  | drawing ho hd =>
    cases ho with
    | box => exact exists_solid_error hd
    | sphere hm | torus hm =>
      obtain ⟨s', hs⟩ := exists_solid_error hd
      exact ⟨s', bind_error.2 (.inr ⟨_, s, ofExcept_ok.2 ⟨hm, rfl⟩, hs⟩)⟩
    | line =>
      simp only [perform, edges, bind_error, read_error, read_ok, draw_error, false_or]
      exact ⟨_, _, _, ⟨rfl, rfl⟩, hd, rfl⟩

/-- An operation without a request stops exactly in the cases of `Raises`. -/
theorem perform_error_iff (hop : op.isRequest = false) :
    (∃ s', perform settings out op s = .error fault s') ↔ Raises settings s op fault :=
  ⟨fun ⟨_, h⟩ => raises_of_perform_error hop h, fun h => h.exists_perform_error⟩

/-- Executing a list stops in one of its operations, when those before it have been performed. -/
theorem execute_error {ops : List (Operation α)} :
    execute settings out ops s = .error fault s' ↔
      ∃ before op after s₁, ops = before ++ op :: after ∧
        execute settings out before s = .ok () s₁ ∧
        perform settings out op s₁ = .error fault s' := by
  induction ops generalizing s with
  | nil =>
    constructor
    · intro h
      cases h
    · rintro ⟨before, op, after, _, hops, -⟩
      cases before <;> cases hops
  | cons op ops ih =>
    rw [execute_cons, bind_error]
    constructor
    · rintro (h | ⟨_, s₁, hop, h⟩)
      · exact ⟨[], op, ops, s, rfl, rfl, h⟩
      · obtain ⟨before, op', after, s₂, rfl, hbefore, hfail⟩ := ih.1 h
        exact ⟨op :: before, op', after, s₂, rfl, execute_cons_ok.2 ⟨s₁, hop, hbefore⟩, hfail⟩
    · rintro ⟨before, op', after, s₂, hops, hbefore, hfail⟩
      cases before with
      | nil =>
        cases hops
        obtain rfl := execute_nil_ok.1 hbefore
        exact .inl hfail
      | cons op₀ before =>
        cases hops
        obtain ⟨s₁, hop, hbefore⟩ := execute_cons_ok.1 hbefore
        exact .inr ⟨(), s₁, hop, ih.2 ⟨before, op', after, s₂, rfl, hbefore, hfail⟩⟩

end

end Render

namespace Job

section
variable {α σ : Type} {job : Job α σ} {d : Directives} {s s' : RenderState α σ} {fault : Fault}

/-- A run is not closed when the animation has no directory, or when the output does not assemble
it. -/
theorem close_error {paths : List String} (h : job.close d paths s = .error fault s') :
    (job.directory = none ∧ fault = .noDirectory) ∨ ∃ directory, job.directory = some directory ∧
      (job.output.assemble ⟨d.basename, paths, directory, job.settings.frameDuration⟩
        s.output).result = .error fault ∧
      { s with
        output := (job.output.assemble
          ⟨d.basename, paths, directory, job.settings.frameDuration⟩ s.output).state
        notes := s.notes ++ ((job.output.assemble
          ⟨d.basename, paths, directory, job.settings.frameDuration⟩
            s.output).written.map Note.wrote).toArray } = s' := by
  simp only [close, Render.bind_error, Render.read_error, Render.read_ok, false_or] at h
  obtain ⟨_, _, ⟨rfl, rfl⟩, h⟩ := h
  split at h
  · cases hdir : job.directory with
    | none =>
      rw [framesDirectory, hdir] at h
      cases h
      exact .inl ⟨rfl, rfl⟩
    | some directory =>
      simp only [framesDirectory, hdir, pure_bind, Render.bind_error, Render.ask_error,
        Render.pure_error, and_false, exists_false, or_false] at h
      exact .inr ⟨directory, rfl, h⟩
  · cases h

end

section
variable {α σ : Type} [Scalar α] [Trig α]

/-- A run up to an operation of a frame: the operations before it have been performed. -/
def upTo (job : Job α σ) (d : Directives) (t : Timeline α) (frame : Nat)
    (before : List (Operation α)) : Render α σ Unit := do
  let _ ← job.approach d t frame
  enter t frame
  Render.execute job.settings job.output before

/-- A run gets through its first passes and comes to an operation of some frame, in the state `s`. -/
inductive ComesTo (job : Job α σ) (s₀ : RenderState α σ) (op : Operation α)
    (s : RenderState α σ) : Prop
  | intro {d : Directives} {t : Timeline α} {frame : Nat} {before after : List (Operation α)} :
      Directives.ofOperations job.operations = .ok d →
      Timeline.ofOperations job.operations d.frames = .ok t → (frame : Int) < d.frames →
      job.operations = before ++ op :: after → job.upTo d t frame before s₀ = .ok () s →
      ComesTo job s₀ op s

variable {job : Job α σ} {d : Directives} {t : Timeline α} {s s₀ s' : RenderState α σ}
  {fault : Fault}

/-- A run comes to an operation when it comes to the frame and performs what is before. -/
theorem upTo_ok {frame : Nat} {before : List (Operation α)} :
    job.upTo d t frame before s₀ = .ok () s ↔
      ∃ paths s₁ start, job.approach d t frame s₀ = .ok paths s₁ ∧ enter t frame s₁ = .ok () start ∧
        Render.execute job.settings job.output before start = .ok () s := by
  simp only [upTo, Render.bind_ok]
  constructor
  · rintro ⟨paths, s₁, hpaths, _, start, henter, hexec⟩
    exact ⟨paths, s₁, start, hpaths, henter, hexec⟩
  · rintro ⟨paths, s₁, start, hpaths, henter, hexec⟩
    exact ⟨paths, s₁, hpaths, (), start, henter, hexec⟩

/-- A run comes to an operation alike from related states that have the same knobs, if it does not
matter that the files that were saved are forgotten. -/
theorem relates_upTo {τ : Type} {out' : Output τ} {T : RenderState α σ → RenderState α τ → Prop}
    (hT : Render.Pairing job.output out' T) (hknobs : ∀ {s s'}, T s s' → s.knobs = s'.knobs)
    (hforget : ∀ {s s'}, T s s' → T { s with saved := #[] } { s' with saved := #[] }) {frame : Nat}
    {before : List (Operation α)} :
    Render.Relates T (job.upTo d t frame before) ((job.redirected out').upTo d t frame before) := by
  have hread : Render.Relates T (modifyGet fun s => (s.knobs, s))
      (modifyGet fun s => (s.knobs, s)) := Render.relates_read hknobs
  have happroach : Render.Relates T (job.approach d t frame)
      ((job.redirected out').approach d t frame) :=
    (Render.relates_note hT).bind fun _ => (Render.relates_note hT).bind fun _ =>
      hread.bind fun _ => (Render.relates_note hT).bind fun _ => (Render.relates_reset hT).bind
        fun _ => (Render.relates_modify hforget).bind fun _ => relates_renderFrames hT
  have henter : Render.Relates T (enter t frame) (enter t frame) :=
    Render.relates_ofExcept.bind fun _ => Render.relates_bindKnobs hT
  exact happroach.bind fun _ => henter.bind fun _ => Render.relates_execute hT

/-- A run comes to its frames from a state in which no frame has been rendered. -/
theorem approach_eq (n : Nat) : job.approach d t n = (do
    let _ ← job.approach d t 0
    job.renderFrames d t (List.range n)) := by
  simp only [approach, List.range_zero, renderFrames, bind_assoc, pure_bind]

/-- The frames in front of one stop in one of them. -/
theorem renderFrames_range_error {n : Nat}
    (h : job.renderFrames d t (List.range n) s = .error fault s') :
    ∃ f paths s₁, f < n ∧ job.renderFrames d t (List.range f) s = .ok paths s₁ ∧
      job.renderFrame d t f s₁ = .error fault s' := by
  induction n with
  | zero => cases h
  | succ n ih =>
    simp only [List.range_succ, renderFrames_append, renderFrames, Render.bind_error,
      Render.pure_error, and_false, exists_false, or_false] at h
    rcases h with h | ⟨paths, s₁, hpaths, h⟩
    · obtain ⟨f, paths, s₁, hf, hbefore, hfail⟩ := ih h
      exact ⟨f, paths, s₁, Nat.lt_succ_of_lt hf, hbefore, hfail⟩
    · exact ⟨n, paths, s₁, Nat.lt_succ_self n, hpaths, h⟩

/-- A run that does not come to a frame has stopped in one before. -/
theorem approach_error {n : Nat} (h : job.approach d t n s₀ = .error fault s') :
    ∃ f paths s₁, f < n ∧ job.approach d t f s₀ = .ok paths s₁ ∧
      job.renderFrame d t f s₁ = .error fault s' := by
  obtain ⟨none, s, hzero⟩ : ∃ none s, job.approach d t 0 s₀ = .ok none s := ⟨_, _, rfl⟩
  rw [approach_eq, Render.bind_of_ok hzero] at h
  obtain ⟨f, paths, s₁, hf, hbefore, hfail⟩ := renderFrames_range_error h
  refine ⟨f, paths, s₁, hf, ?_, hfail⟩
  rw [approach_eq, Render.bind_of_ok hzero]
  exact hbefore

/-- How a run stops: in an operation of a frame, when a frame of an animation is exported, or when
all is rendered and the animation is assembled. -/
theorem run_error (hd : Directives.ofOperations job.operations = .ok d)
    (ht : Timeline.ofOperations job.operations d.frames = .ok t)
    (h : job.run s₀ = .error fault s') :
    (∃ (frame : Nat) (before after : List (Operation α)) (op : Operation α) (s : RenderState α σ),
      (frame : Int) < d.frames ∧ job.operations = before ++ op :: after ∧
      job.upTo d t frame before s₀ = .ok () s ∧
      Render.perform job.settings job.output op s = .error fault s') ∨
    (∃ (frame : Nat) (s : RenderState α σ), (frame : Int) < d.frames ∧ d.isAnimated = true ∧
      job.upTo d t frame job.operations s₀ = .ok () s ∧
      job.exportFrame d frame s = .error fault s') ∨
    ∃ paths s, job.approach d t d.frames.toNat s₀ = .ok paths s ∧
      job.close d paths s = .error fault s' := by
  rw [run_eq_close hd ht, Render.bind_error] at h
  rcases h with h | h
  · obtain ⟨f, paths, s₁, hf, hbefore, h⟩ := approach_error h
    have hlt : (f : Int) < d.frames := by omega
    have hsize : f < t.slots.size := by rwa [Timeline.size_ofOperations ht]
    obtain ⟨start, henter, -⟩ := enter_of_lt (s := s₁) hsize
    rw [renderFrame_eq, Render.bind_of_ok henter, Render.bind_error] at h
    rcases h with h | ⟨_, s, hexec, h⟩
    · obtain ⟨before, op, after, s, hops, hexec, hfail⟩ := Render.execute_error.1 h
      exact .inl ⟨f, before, after, op, s, hlt, hops,
        upTo_ok.2 ⟨paths, s₁, start, hbefore, henter, hexec⟩, hfail⟩
    · unfold leave at h
      split at h
      · next hanim =>
        rw [map_eq_pure_bind, Render.bind_error] at h
        rcases h with h | ⟨_, _, -, h⟩
        · exact .inr (.inl ⟨f, s, hlt, hanim,
            upTo_ok.2 ⟨paths, s₁, start, hbefore, henter, hexec⟩, h⟩)
        · cases h
      · cases h
  · exact .inr (.inr h)

/-- A run that comes to an operation which stops at a fault stops with it. -/
theorem ComesTo.run_error {op : Operation α} (h : job.ComesTo s₀ op s)
    (hop : Render.perform job.settings job.output op s = .error fault s') :
    job.run s₀ = .error fault s' := by
  cases h with
  | @intro d t frame before after hd ht hf hops hup =>
    obtain ⟨paths, s₁, start, hbefore, henter, hexec⟩ := upTo_ok.1 hup
    rw [run_eq hd ht hf, Render.bind_of_ok hbefore, Render.bind_of_ok henter, Render.bind_error]
    exact .inl (Render.execute_error.2 ⟨before, op, after, s, hops, hexec, hop⟩)

end

end Job

end SceneScript
