import SceneScript.Proofs.Animation.Knobs
import SceneScript.Render.Run

/-!
# Steps side by side

Two runs are compared by a relation of their states. Steps that do the same to related states are
related themselves (`Render.Relates`), and so are steps one after another. All that a run does is
made of a few such steps, so a relation that states of the same scene stand in, and that answers of
the outputs keep (`Render.Pairing`), is kept by each operation (`Render.relates_perform`), by a
whole list of them, and by the frames of a run (`Job.relates_renderFrames`).
-/

namespace SceneScript

/-- A state behind a reply of its output. -/
def RenderState.answered {α σ β : Type} (s : RenderState α σ) (r : Reply σ β) : RenderState α σ :=
  { s with output := r.state, notes := s.notes ++ (r.written.map Note.wrote).toArray }

/-- A factor is the same under knobs of the same values. -/
theorem Knobs.factor_congr {α : Type} {k k' : Knobs α}
    (h : ∀ name, k.lookup? name = k'.lookup? name) {knob : Option String} :
    k.factor knob = k'.factor knob := by
  cases knob with
  | none => rfl
  | some name => simp only [factor, lookup, h]

/-- A job whose requests go to another output. -/
def Job.redirected {α σ τ : Type} (job : Job α σ) (out : Output τ) : Job α τ :=
  { job with output := out }

namespace Render

section
variable {α σ τ β γ : Type}

/-- The state that an outcome leaves. -/
def final : EStateM.Result Fault (RenderState α σ) β → RenderState α σ
  | .ok _ s | .error _ s => s

/-- The result of an outcome, if it has one. -/
def result? : EStateM.Result Fault (RenderState α σ) β → Option β
  | .ok b _ => some b
  | .error _ _ => none

/-- An outcome with a result is a success. -/
theorem eq_ok_of_result? {r : EStateM.Result Fault (RenderState α σ) β} {b : β}
    (h : result? r = some b) : r = .ok b (final r) := by
  cases r with
  | ok _ s => cases h; rfl
  | error => cases h

/-- The fault of an outcome, if it is one. -/
def fault? : EStateM.Result Fault (RenderState α σ) β → Option Fault
  | .ok _ _ => none
  | .error fault _ => some fault

/-- An outcome with a fault is a failure. -/
theorem exists_eq_error {r : EStateM.Result Fault (RenderState α σ) β}
    (h : (fault? r).isSome = true) : ∃ fault s, r = .error fault s := by
  cases r with
  | ok => cases h
  | error fault s => exact ⟨fault, s, rfl⟩

/-- Two outcomes with one result, or one fault, whose states are related. -/
inductive Outcomes (T : RenderState α σ → RenderState α τ → Prop) :
    EStateM.Result Fault (RenderState α σ) β → EStateM.Result Fault (RenderState α τ) β → Prop
  | ok : T s s' → Outcomes T (.ok b s) (.ok b s')
  | error : T s s' → Outcomes T (.error fault s) (.error fault s')

/-- From related states two steps have the same outcome, with related states. -/
def Relates (T : RenderState α σ → RenderState α τ → Prop) (x : Render α σ β)
    (x' : Render α τ β) : Prop := ∀ s s', T s s' → Outcomes T (x s) (x' s')

/-- Two replies with one result, behind which the states of the run are related. -/
def Answers (T : RenderState α σ → RenderState α τ → Prop) (s : RenderState α σ)
    (s' : RenderState α τ) (r : Reply σ β) (r' : Reply τ β) : Prop :=
  r.result = r'.result ∧ T (s.answered r) (s'.answered r')

/-- A relation of states that have the same stack, the same canvas and the same values of the knobs,
which is kept when both states change alike, and when their outputs are asked the same. -/
structure Pairing (out : Output σ) (out' : Output τ)
    (T : RenderState α σ → RenderState α τ → Prop) : Prop where
  stack_eq : T s s' → s.stack = s'.stack
  canvas_eq : T s s' → s.canvas = s'.canvas
  lookup?_eq : T s s' → ∀ name, s.knobs.lookup? name = s'.knobs.lookup? name
  stack : T s s' → ∀ stack, T { s with stack } { s' with stack }
  canvas : T s s' → ∀ canvas, T { s with canvas } { s' with canvas }
  bindings : T s s' → ∀ bindings,
    T { s with knobs := s.knobs.merge bindings } { s' with knobs := s'.knobs.merge bindings }
  saved : T s s' → ∀ path,
    T { s with saved := s.saved.push path } { s' with saved := s'.saved.push path }
  draws : T s s' → ∀ call,
    T { s with draws := s.draws.push call } { s' with draws := s'.draws.push call }
  notes : T s s' → ∀ notes,
    T { s with notes := s.notes ++ notes } { s' with notes := s'.notes ++ notes }
  save : T s s' → ∀ p path, Answers T s s' (out.save p path s.output) (out'.save p path s'.output)
  display : T s s' → ∀ p, Answers T s s' (out.display p s.output) (out'.display p s'.output)
  assemble : T s s' → ∀ a, Answers T s s' (out.assemble a s.output) (out'.assemble a s'.output)

variable {T : RenderState α σ → RenderState α τ → Prop}

/-- A result alone depends on no state. -/
theorem relates_pure {b : β} : Relates T (pure b) (pure b) := fun _ _ h => .ok h

/-- A result that may be a fault depends on no state. -/
theorem relates_ofExcept {x : Except Fault β} : Relates T (ofExcept x) (ofExcept x) := by
  intro s s' h
  cases x with
  | ok b => exact .ok h
  | error fault => exact .error h

/-- Related steps one after another are related. -/
theorem Relates.bind {x : Render α σ β} {x' : Render α τ β} {f : β → Render α σ γ}
    {f' : β → Render α τ γ} (hx : Relates T x x') (hf : ∀ b, Relates T (f b) (f' b)) :
    Relates T (x >>= f) (x' >>= f') := by
  intro s s' h
  show Outcomes T (EStateM.bind x f s) (EStateM.bind x' f' s')
  unfold EStateM.bind
  have ho := hx s s' h
  generalize x s = r at ho ⊢
  generalize x' s' = r' at ho ⊢
  cases ho with
  | ok h => exact hf _ _ _ h
  | error h => exact .error h

/-- Related steps whose results are changed alike are related. -/
theorem Relates.map {x : Render α σ β} {x' : Render α τ β} (f : β → γ) (hx : Relates T x x') :
    Relates T (f <$> x) (f <$> x') := by
  rw [map_eq_pure_bind, map_eq_pure_bind]
  exact hx.bind fun _ => relates_pure

/-- Changes that keep states related are related. -/
theorem relates_modify {f : RenderState α σ → RenderState α σ}
    {f' : RenderState α τ → RenderState α τ} (hf : ∀ {s s'}, T s s' → T (f s) (f' s')) :
    Relates T (modify f : Render α σ Unit) (modify f') := fun _ _ h => .ok (hf h)

/-- What is read alike from related states is the same. -/
theorem relates_read {f : RenderState α σ → β} {f' : RenderState α τ → β}
    (hf : ∀ {s s'}, T s s' → f s = f' s') :
    Relates T (modifyGet fun s => (f s, s)) (modifyGet fun s => (f' s, s)) := by
  intro s s' h
  show Outcomes T (.ok (f s) s) (.ok (f' s') s')
  rw [hf h]
  exact .ok h

/-- Requests whose replies are alike are related. -/
theorem relates_ask {request : σ → Reply σ β} {request' : τ → Reply τ β}
    (h : ∀ {s s'}, T s s' → Answers T s s' (request s.output) (request' s'.output)) :
    Relates T (ask request) (ask request') := by
  intro s s' hs
  obtain ⟨hr, ht⟩ := h hs
  unfold ask
  dsimp only
  rw [hr]
  cases (request' s'.output).result with
  | ok b => exact .ok ht
  | error fault => exact .error ht

/-- Replies stay alike when their faults are replaced. -/
theorem Answers.mapFault {s : RenderState α σ} {s' : RenderState α τ} {r : Reply σ β}
    {r' : Reply τ β} (h : Answers T s s' r r') (f : Fault → Fault) :
    Answers T s s' (r.mapFault f) (r'.mapFault f) :=
  ⟨congrArg (Except.mapError f) h.1, h.2⟩

end

section
variable {α σ τ : Type} {out : Output σ} {out' : Output τ}
  {T : RenderState α σ → RenderState α τ → Prop}

/-- Notes that are told alike. -/
theorem relates_note (hT : Pairing out out' T) {ns : List (Note α)} :
    Relates T (note ns) (note ns) := relates_modify fun h => hT.notes h _

/-- The picture is that of the canvas. -/
theorem relates_picture (hT : Pairing out out' T) : Relates T picture picture :=
  relates_read fun h => congrArg Canvas.picture (hT.canvas_eq h)

/-- The top is that of the stack. -/
theorem relates_top (hT : Pairing out out' T) :
    Relates T (modifyGet fun s => (s.stack.top, s)) (modifyGet fun s => (s.stack.top, s)) :=
  relates_read fun h => congrArg ScopeStack.top (hT.stack_eq h)

/-- A factor is the value of its knob. -/
theorem relates_factor (hT : Pairing out out' T) {knob : Option String} :
    Relates T (factor knob) (factor knob) := by
  intro s s' h
  unfold factor
  rw [Knobs.factor_congr (hT.lookup?_eq h)]
  cases s'.knobs.factor knob with
  | ok f => exact .ok h
  | error fault => exact .error h

/-- A scope is closed on the stack. -/
theorem relates_closeScope (hT : Pairing out out' T) : Relates T closeScope closeScope := by
  intro s s' h
  unfold closeScope
  rw [hT.stack_eq h]
  obtain ⟨popped, stack⟩ := s'.stack.pop
  cases popped with
  | ok _ => exact .ok (hT.stack h stack)
  | error fault => exact .error (hT.stack h stack)

/-- Knobs are given the same values. -/
theorem relates_bindKnobs (hT : Pairing out out' T) {bindings : Knobs α} :
    Relates T (bindKnobs bindings) (bindKnobs bindings) := relates_modify fun h => hT.bindings h _

variable [Scalar α]

/-- A drawing is one of the canvas. -/
theorem relates_draw (hT : Pairing out out' T) {kind : ItemKind} {points : List (Vec4 α)}
    {drawing : Extent → List (Vec4 α) → Drawing α} :
    Relates T (draw kind points drawing) (draw kind points drawing) := by
  intro s s' h
  unfold draw
  rw [hT.canvas_eq h]
  dsimp only
  have hpaint := hT.canvas h (s'.canvas.paint (drawing s'.canvas.extent points).fragments)
  cases (drawing s'.canvas.extent points).outcome with
  | ok n => exact .ok (hT.draws hpaint ⟨kind, points, n⟩)
  | error fault => exact .error hpaint

/-- A transform acts on the stack. -/
theorem relates_transform (hT : Pairing out out' T) {m : Transform α} :
    Relates T (transform m) (transform m) := by
  refine relates_modify fun {s s'} h => ?_
  rw [hT.stack_eq h]
  exact hT.stack h _

/-- A new stack and an empty canvas are the same. -/
theorem relates_reset (hT : Pairing out out' T) : Relates T reset reset := by
  refine relates_modify fun {s s'} h => ?_
  rw [hT.canvas_eq h]
  exact hT.canvas (hT.stack h _) _

/-- A solid is drawn alike. -/
theorem relates_solid (hT : Pairing out out' T) {settings : Settings α} {mesh : Mesh α} :
    Relates T (solid settings mesh) (solid settings mesh) :=
  (relates_top hT).bind fun _ => relates_draw hT

variable [Trig α] {settings : Settings α}

/-- An operation does the same to related states. -/
theorem relates_perform (hT : Pairing out out' T) {op : Operation α} :
    Relates T (perform settings out op) (perform settings out' op) := by
  cases op with
  | push =>
    refine relates_modify fun {s s'} h => ?_
    rw [hT.stack_eq h]
    exact hT.stack h _
  | pop => exact relates_closeScope hT
  | move | scale =>
    exact (relates_factor hT).bind fun _ => (relates_note hT).bind fun _ => relates_transform hT
  | rotate =>
    exact (relates_factor hT).bind fun _ => (relates_note hT).bind fun _ =>
      relates_ofExcept.bind fun _ => relates_transform hT
  | box => exact relates_solid hT
  | sphere | torus => exact relates_ofExcept.bind fun _ => relates_solid hT
  | line => exact (relates_top hT).bind fun _ => relates_draw hT
  | save =>
    refine (relates_picture hT).bind fun p => Relates.bind ?_ fun _ => ?_
    · exact relates_ask fun h => (hT.save h p _).mapFault _
    · exact relates_modify fun h => hT.saved h _
  | display => exact (relates_picture hT).bind fun p => relates_ask fun h => hT.display h p
  | frames | basename | vary => exact relates_pure

/-- Operations do the same to related states. -/
theorem relates_execute (hT : Pairing out out' T) {ops : List (Operation α)} :
    Relates T (execute settings out ops) (execute settings out' ops) := by
  induction ops with
  | nil => exact relates_pure
  | cons op ops ih => exact (relates_perform hT).bind fun _ => ih

end

end Render

namespace Job

open Render

section
variable {α σ τ : Type} {job : Job α σ} {out' : Output τ} {d : Directives}
  {T : RenderState α σ → RenderState α τ → Prop}

/-- The directory of the frames is asked of no output. -/
theorem relates_framesDirectory :
    Relates T job.framesDirectory (job.redirected out').framesDirectory := by
  intro s s' h
  unfold framesDirectory redirected
  cases job.directory with
  | some directory => exact .ok h
  | none => exact .error h

/-- The first pass is the same for every output. -/
theorem relates_scan (hT : Pairing job.output out' T) {ops : List (Operation α)} :
    Relates T (Render.scan ops) (Render.scan ops) :=
  relates_ofExcept.bind fun _ => (relates_note hT).bind fun _ => relates_ofExcept.bind fun _ =>
    (relates_note hT).bind fun _ => relates_pure

variable [Scalar α]

/-- The first two passes are alike. -/
theorem relates_prepare (hT : Pairing job.output out' T) :
    Relates T job.prepare (job.redirected out').prepare :=
  (relates_scan hT).bind fun _ => (relates_note hT).bind fun _ => relates_ofExcept.bind fun _ =>
    relates_pure

/-- A frame is exported alike. -/
theorem relates_exportFrame (hT : Pairing job.output out' T) {f : Nat} :
    Relates T (job.exportFrame d f) ((job.redirected out').exportFrame d f) :=
  relates_ofExcept.bind fun _ => relates_framesDirectory.bind fun _ =>
    (relates_picture hT).bind fun p => (relates_ask fun h => hT.save h p _).bind fun _ =>
      (relates_reset hT).bind fun _ => (relates_note hT).bind fun _ => relates_pure

variable [Trig α] {t : Timeline α}

/-- A frame is rendered alike. -/
theorem relates_renderFrame (hT : Pairing job.output out' T) {f : Nat} :
    Relates T (job.renderFrame d t f) ((job.redirected out').renderFrame d t f) := by
  refine relates_ofExcept.bind fun _ => (relates_bindKnobs hT).bind fun _ =>
    (relates_execute hT).bind fun _ => ?_
  cases d.isAnimated with
  | true => exact (relates_exportFrame hT).map some
  | false => exact relates_pure

/-- Frames are rendered alike. -/
theorem relates_renderFrames (hT : Pairing job.output out' T) {fs : List Nat} :
    Relates T (job.renderFrames d t fs) ((job.redirected out').renderFrames d t fs) := by
  induction fs with
  | nil => exact relates_pure
  | cons f fs ih =>
    exact (relates_renderFrame hT).bind fun _ => ih.bind fun _ => relates_pure

/-- Runs are alike from related states that have the same knobs and the same saved files, if it does
not matter that the files are forgotten. -/
theorem relates_run (hT : Pairing job.output out' T)
    (hknobs : ∀ {s s'}, T s s' → s.knobs = s'.knobs)
    (hsaved : ∀ {s s'}, T s s' → s.saved = s'.saved)
    (hforget : ∀ {s s'}, T s s' → T { s with saved := #[] } { s' with saved := #[] }) :
    Relates T job.run (job.redirected out').run := by
  have hall (d : Directives) (t : Timeline α) :
      Relates T (job.renderAll d t) ((job.redirected out').renderAll d t) :=
    (relates_reset hT).bind fun _ => (relates_modify hforget).bind fun _ =>
      (relates_renderFrames hT).bind fun _ =>
        (relates_read fun h => congrArg Array.toList (hsaved h)).bind fun _ => relates_pure
  have hread : Relates T (modifyGet fun s => (s.knobs, s)) (modifyGet fun s => (s.knobs, s)) :=
    relates_read hknobs
  refine (relates_prepare hT).bind fun (d, t) => hread.bind fun _ =>
    (relates_note hT).bind fun _ => (hall d t).bind fun report => ?_
  cases d.isAnimated with
  | true =>
    exact relates_framesDirectory.bind fun _ =>
      (relates_ask fun h => hT.assemble h _).bind fun _ => relates_pure
  | false => exact relates_pure

end

end Job

end SceneScript
