import SceneScript.Proofs.Render.Frames
import SceneScript.Proofs.Render.Journal

/-!
# Where directives stand

The directives of a script and its other operations are read by different passes. The first two
passes look at the directives alone (`Render.scan_filter`,
`Timeline.ofOperations_filter`), and in a frame the directives do nothing
(`Render.execute_filter`). So a run depends on the order of the directives and on that of the other
operations, but not on how the two are interleaved (`Job.directives_anywhere`).
-/

namespace SceneScript

section
variable {α : Type} {ops ops' : List (Operation α)}

/-- Two scripts with the same directives in the same order, and the same other operations in the
same order. -/
structure Operation.SameParts (ops ops' : List (Operation α)) : Prop where
  directives : ops.filter (·.isDirective) = ops'.filter (·.isDirective)
  scene : ops.filter (!·.isDirective) = ops'.filter (!·.isDirective)

/-- What is picked from directives alone is picked from the directives of a script. -/
theorem Operation.filterMap_directives {β : Type} {pick : Operation α → Option β}
    (h : ∀ op : Operation α, op.isDirective = false → pick op = none) :
    (ops.filter (·.isDirective)).filterMap pick = ops.filterMap pick := by
  rw [List.filterMap_filter]
  refine congrArg (ops.filterMap ·) (funext fun op => ?_)
  cases hop : op.isDirective with
  | true => rfl
  | false => exact (h op hop).symm

/-- Frame counts are directives. -/
theorem Operation.frameCount?_of_not_isDirective {op : Operation α} (h : op.isDirective = false) :
    op.frameCount? = none := by
  cases op with
  | frames => cases h
  | _ => rfl

/-- The names of frames are directives. -/
theorem Operation.basename?_of_not_isDirective {op : Operation α} (h : op.isDirective = false) :
    op.basename? = none := by
  cases op with
  | basename => cases h
  | _ => rfl

/-- Ramps are directives. -/
theorem Operation.ramp?_of_not_isDirective {op : Operation α} (h : op.isDirective = false) :
    op.ramp? = none := by
  cases op with
  | vary => cases h
  | _ => rfl

/-- The ramps of a script are those of its directives. -/
theorem Timeline.ramps_filter : ramps (ops.filter (·.isDirective)) = ramps ops :=
  Operation.filterMap_directives fun _ => Operation.ramp?_of_not_isDirective

/-- A script has a ramp if its directives have one. -/
theorem Operation.any_ramp?_filter :
    (ops.filter (·.isDirective)).any (·.ramp?.isSome) = ops.any (·.ramp?.isSome) := by
  rw [List.any_filter]
  refine congrArg (ops.any ·) (funext fun op => ?_)
  cases hop : op.isDirective with
  | true => rfl
  | false => rw [ramp?_of_not_isDirective hop]; rfl

/-- The directives are read off themselves. -/
theorem Directives.read_filter [Machine] : read (ops.filter (·.isDirective)) = read ops := by
  have hcount : (ops.filter (·.isDirective)).filterMap (·.frameCount?) =
      ops.filterMap (·.frameCount?) :=
    Operation.filterMap_directives fun _ => Operation.frameCount?_of_not_isDirective
  have hname : (ops.filter (·.isDirective)).filterMap (·.basename?) =
      ops.filterMap (·.basename?) :=
    Operation.filterMap_directives fun _ => Operation.basename?_of_not_isDirective
  unfold read
  rw [hcount, hname, Operation.any_ramp?_filter]

/-- The first pass looks at the directives alone. -/
theorem Render.scan_filter {σ : Type} [Machine] :
    (scan (ops.filter (·.isDirective)) : Render α σ Directives) = scan ops := by
  unfold scan
  rw [Directives.read_filter]

/-- The second pass looks at the directives alone. -/
theorem Timeline.ofOperations_filter [Scalar α] {frames : Int} :
    ofOperations (ops.filter (·.isDirective)) frames = ofOperations ops frames := by
  unfold ofOperations
  rw [ramps_filter]

/-- What is told of the ramps is told of the directives alone. -/
theorem Timeline.notes_filter {frames : Int} :
    notes (ops.filter (·.isDirective)) frames = notes ops frames := by
  unfold notes
  rw [ramps_filter]

end

namespace Render

variable {α σ : Type} [Scalar α] [Trig α] {settings : Settings α} {out : Output σ}

/-- A directive does nothing in a frame. -/
theorem perform_of_isDirective {op : Operation α} (h : op.isDirective = true) :
    perform settings out op = pure () := by
  cases op with
  | frames | basename | vary => rfl
  | _ => cases h

/-- A frame is executed without its directives. -/
theorem execute_filter {ops : List (Operation α)} :
    execute settings out (ops.filter (!·.isDirective)) = execute settings out ops := by
  induction ops with
  | nil => rfl
  | cons op ops ih =>
    cases hop : op.isDirective with
    | false =>
      rw [List.filter_cons_of_pos (by simp [hop]), execute_cons, execute_cons, ih]
    | true =>
      rw [List.filter_cons_of_neg (by simp [hop]), execute_cons, perform_of_isDirective hop,
        pure_bind, ih]

end Render

namespace Job

variable {α σ : Type}

/-- A job with other operations. -/
def withOperations (job : Job α σ) (ops : List (Operation α)) : Job α σ :=
  { job with operations := ops }

/-- A job with other operations, and a journal beside its output. -/
theorem journaled_withOperations (job : Job α σ) (ops : List (Operation α)) :
    (job.withOperations ops).journaled = job.journaled.withOperations ops := rfl

variable [Scalar α] {job : Job α σ} {ops ops' : List (Operation α)}

/-- The first two passes are alike for the same directives. -/
theorem prepare_withOperations
    (h : ops.filter (·.isDirective) = ops'.filter (·.isDirective)) :
    (job.withOperations ops).prepare = (job.withOperations ops').prepare := by
  have hd : (Render.scan ops : Render α σ Directives) = Render.scan ops' := by
    rw [← Render.scan_filter, h, Render.scan_filter]
  have ht (frames : Int) :
      Timeline.ofOperations ops frames = Timeline.ofOperations ops' frames := by
    rw [← Timeline.ofOperations_filter, h, Timeline.ofOperations_filter]
  have hn (frames : Int) : Timeline.notes ops frames = Timeline.notes ops' frames := by
    rw [← Timeline.notes_filter, h, Timeline.notes_filter]
  simp only [prepare, withOperations, hd, ht, hn]

variable [Trig α]

/-- Frames are rendered alike from the same operations beside the directives. -/
theorem renderFrames_withOperations
    (h : ops.filter (!·.isDirective) = ops'.filter (!·.isDirective)) {d : Directives}
    {t : Timeline α} {fs : List Nat} :
    (job.withOperations ops).renderFrames d t fs =
      (job.withOperations ops').renderFrames d t fs := by
  have hexec : Render.execute job.settings job.output ops =
      Render.execute job.settings job.output ops' := by
    rw [← Render.execute_filter, h, Render.execute_filter]
  have hframe (f : Nat) : (job.withOperations ops).renderFrame d t f =
      (job.withOperations ops').renderFrame d t f := by
    simp only [renderFrame_eq, withOperations, hexec]
    rfl
  induction fs with
  | nil => rfl
  | cons f fs ih => rw [renderFrames, renderFrames, hframe, ih]

/-- Runs are alike for scripts with the same parts. -/
theorem run_withOperations (h : Operation.SameParts ops ops') :
    (job.withOperations ops).run = (job.withOperations ops').run := by
  have hall (d : Directives) (t : Timeline α) : (job.withOperations ops).renderAll d t =
      (job.withOperations ops').renderAll d t := by
    unfold renderAll
    rw [renderFrames_withOperations h.scene]
  unfold run
  rw [prepare_withOperations h.directives]
  refine congrArg _ (funext fun (d, t) => ?_)
  dsimp only
  rw [hall]
  rfl

/-- Directives may stand anywhere. Of two scripts that interleave the same directives with the same
other operations, each of them in its order, the runs from any state have the same outcome: the same
report or the same fault, and the same state behind it, with its knobs, its canvas and the calls
that drew. They also make the same calls to the output, with the same pictures and answers. -/
theorem directives_anywhere (job : Job α σ) (h : Operation.SameParts ops ops')
    (s₀ : RenderState α σ) :
    (job.withOperations ops).run s₀ = (job.withOperations ops').run s₀ ∧
      (job.withOperations ops).calls s₀ = (job.withOperations ops').calls s₀ := by
  refine ⟨by rw [run_withOperations h], ?_⟩
  rw [calls, calls, record, record, journaled_withOperations, journaled_withOperations,
    run_withOperations h]

/-- The moving dot may be told how many frames it has, and how it moves, before it is drawn and
within its scope. -/
theorem directives_anywhere_movingDot :
    let early : List (Operation Float) :=
      [.frames (.whole 2), .push, .vary ⟨"k", 1, 1, 1, 1⟩, .move ⟨1, 0, 0⟩ (some "k"),
        .line ⟨0, 0, 0⟩ ⟨0, 0, 0⟩]
    Operation.SameParts movingDot.operations early ∧
      movingDot.run usedState = (movingDot.withOperations early).run usedState ∧
      movingDot.calls usedState = (movingDot.withOperations early).calls usedState := by
  intro early
  have h : Operation.SameParts movingDot.operations early := ⟨rfl, rfl⟩
  exact ⟨h, directives_anywhere movingDot h usedState⟩

end Job

end SceneScript
