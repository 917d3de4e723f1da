import SceneScript.Proofs.Render.Failure
import SceneScript.Proofs.Render.Frames

/-!
# The plan of a run

When the directives and the ramps of a script are read, all that its run will do is known: it enters
each frame, performs the operations, exports the frame if it is one of an animation, and in the end
collects what was saved and assembles the animation (`Job.plan`). A run takes the steps of its plan
one after another, with the report as it is so far (`Job.run_eq_reach`). So where a run stops at a
fault there is a step that it stopped in, and steps before that it has taken
(`Job.follow_error`).
-/

namespace SceneScript

/-- A step of the plan of a run. -/
inductive Step (α : Type)
  | enter (frame : Nat)
  | perform (op : Operation α)
  | leave (frame : Nat)
  | collect
  | assemble

namespace Step

variable {α : Type}

/-- The frame that a step starts, if it starts one. -/
def frame? : Step α → Option Nat
  | enter frame => some frame
  | _ => none

/-- The fault of a step whose request was answered with a fault. -/
def raised : Step α → Fault → Fault
  | perform op, why => op.raised why
  | _, why => why

end Step

namespace Job

variable {α σ : Type}

/-- The steps of a frame. -/
def framePlan (job : Job α σ) (d : Directives) (frame : Nat) : List (Step α) :=
  .enter frame :: (job.operations.map .perform ++ if d.isAnimated then [.leave frame] else [])

/-- The steps of a run. -/
def plan (job : Job α σ) (d : Directives) : List (Step α) :=
  (List.range d.frames.toNat).flatMap (job.framePlan d) ++
    .collect :: if d.isAnimated then [.assemble] else []

variable [Scalar α]

/-- A frame that can be named cannot be exported when the output answers with a fault. -/
theorem exportFrame_error {job : Job α σ} {d : Directives} {f : Nat} {s s' : RenderState α σ}
    {directory : String} {fault : Fault} (hdir : job.directory = some directory)
    (hname : d.NamesFrame f) (h : job.exportFrame d f s = .error fault s') :
    (job.output.save s.canvas.picture (d.framePath directory f) s.output).result = .error fault ∧
      { s with
        output := (job.output.save s.canvas.picture (d.framePath directory f) s.output).state
        notes := s.notes ++ ((job.output.save s.canvas.picture (d.framePath directory f)
          s.output).written.map Note.wrote).toArray } = s' := by
  simp only [exportFrame_of_namesFrame hname, framesDirectory, hdir, pure_bind, Render.picture,
    Render.reset, Render.bind_error, Render.read_error, Render.read_ok, Render.ask_error,
    Render.modify_error, Render.note_error, Render.pure_error, and_false, exists_false, or_false,
    false_or] at h
  obtain ⟨_, _, ⟨rfl, rfl⟩, hr, rfl⟩ := h
  exact ⟨hr, rfl⟩

variable [Trig α]

/-- Takes a step: the report behind it. -/
def take (job : Job α σ) (d : Directives) (t : Timeline α) (report : Report) :
    Step α → Render α σ Report
  | .enter frame => do
    enter t frame
    pure report
  | .perform op => do
    Render.perform job.settings job.output op
    pure report
  | .leave frame => do
    let path ← job.exportFrame d frame
    pure { report with framePaths := report.framePaths ++ [path] }
  | .collect => do
    let saved ← modifyGet fun s => (s.saved.toList, s)
    pure { report with savedPaths := saved }
  | .assemble => do
    let directory ← job.framesDirectory
    let path ← Render.ask (job.output.assemble
      ⟨d.basename, report.framePaths, directory, job.settings.frameDuration⟩)
    pure { report with animation := some path }

/-- Takes steps in order. -/
def follow (job : Job α σ) (d : Directives) (t : Timeline α) (steps : List (Step α))
    (report : Report) : Render α σ Report := steps.foldlM (job.take d t) report

/-- A run up to where it has taken the given steps: the report so far. -/
def reach (job : Job α σ) (d : Directives) (t : Timeline α) (steps : List (Step α)) :
    Render α σ Report := do
  let paths ← job.approach d t 0
  job.follow d t steps { frames := d.frames, basename := d.basename, framePaths := paths }

variable {job : Job α σ} {d : Directives} {t : Timeline α} {steps more : List (Step α)}
  {report report' : Report}

/-- Steps and more steps. -/
theorem follow_append : job.follow d t (steps ++ more) report =
    job.follow d t steps report >>= job.follow d t more := List.foldlM_append

/-- One step and more steps. -/
theorem follow_cons {step : Step α} : job.follow d t (step :: steps) report =
    job.take d t report step >>= job.follow d t steps := List.foldlM_cons

/-- The steps of operations execute them. -/
theorem follow_operations {ops : List (Operation α)} :
    job.follow d t (ops.map .perform) report = (do
      Render.execute job.settings job.output ops
      pure report) := by
  induction ops with
  | nil => rfl
  | cons op ops ih =>
    simp only [List.map_cons, follow_cons, take, Render.execute_cons, bind_assoc, pure_bind, ih]

/-- The steps of a frame render it. -/
theorem follow_framePlan {f : Nat} :
    job.follow d t (job.framePlan d f) report = (do
      let path ← job.renderFrame d t f
      pure { report with framePaths := report.framePaths ++ path.toList }) := by
  simp only [framePlan, follow_cons, follow_append, follow_operations, renderFrame_eq, leave, take,
    bind_assoc, pure_bind]
  cases d.isAnimated with
  | true =>
    simp only [if_true, follow_cons, take, bind_assoc, pure_bind, map_eq_pure_bind,
      Option.toList_some]
    rfl
  | false =>
    simp only [Bool.false_eq_true, if_false, pure_bind, Option.toList_none, List.append_nil]
    rfl

/-- The steps of frames render them. -/
theorem follow_frames {fs : List Nat} :
    job.follow d t (fs.flatMap (job.framePlan d)) report = (do
      let paths ← job.renderFrames d t fs
      pure { report with framePaths := report.framePaths ++ paths }) := by
  induction fs generalizing report with
  | nil =>
    simp only [List.flatMap_nil, renderFrames, pure_bind, List.append_nil]
    rfl
  | cons f fs ih =>
    simp only [List.flatMap_cons, follow_append, follow_framePlan, renderFrames, ih, bind_assoc,
      pure_bind, List.append_assoc]

/-- The last steps close the run. -/
theorem follow_close {paths : List String} :
    job.follow d t (.collect :: if d.isAnimated then [.assemble] else [])
      { frames := d.frames, basename := d.basename, framePaths := paths } = job.close d paths := by
  simp only [follow_cons, take, close, bind_assoc, pure_bind]
  cases d.isAnimated with
  | true =>
    simp only [if_true, follow_cons, take, bind_assoc, pure_bind]
    rfl
  | false => rfl

/-- A run takes all steps of its plan. -/
theorem run_eq_reach (hd : Directives.ofOperations job.operations = .ok d)
    (ht : Timeline.ofOperations job.operations d.frames = .ok t) :
    job.run = job.reach d t (job.plan d) := by
  simp only [run_eq_close hd ht, reach, plan, follow_append, follow_frames, approach,
    List.range_zero, renderFrames, bind_assoc, pure_bind, List.nil_append, follow_close]

/-- A run stops at a fault of the directives and has told what it has read of them. -/
theorem run_of_directives_error {s : RenderState α σ} {fault : Fault}
    (hd : Directives.ofOperations job.operations = .error fault) : job.run s =
      .error fault { s with notes := s.notes ++ (Directives.told job.operations).toArray } := by
  rw [run, prepare, Render.scan_eq, hd]
  rfl

/-- A run stops at a fault of the ramps and has told of the passes. -/
theorem run_of_ramps_error {s : RenderState α σ} {fault : Fault}
    (hd : Directives.ofOperations job.operations = .ok d)
    (ht : Timeline.ofOperations job.operations d.frames = .error fault) :
    job.run s = .error fault { s with
      notes :=
        s.notes ++ d.notes.toArray ++ (Timeline.notes job.operations d.frames).toArray } := by
  simp only [run, prepare, Render.scan_of_ok hd, ofExcept, pure_bind, ht, bind_assoc]
  rfl

/-- The animation is assembled when the output answers. -/
theorem take_assemble_ok_iff {s s' : RenderState α σ} {directory : String}
    (hdir : job.directory = some directory) :
    job.take d t report .assemble s = .ok report' s' ↔ ∃ path,
      (job.output.assemble ⟨d.basename, report.framePaths, directory, job.settings.frameDuration⟩
        s.output).result = .ok path ∧
      { report with animation := some path } = report' ∧
      { s with
        output := (job.output.assemble
          ⟨d.basename, report.framePaths, directory, job.settings.frameDuration⟩ s.output).state
        notes := s.notes ++ ((job.output.assemble
          ⟨d.basename, report.framePaths, directory, job.settings.frameDuration⟩
            s.output).written.map Note.wrote).toArray } = s' := by
  simp only [take, framesDirectory, hdir, pure_bind, Render.bind_ok, Render.ask_ok, Render.pure_ok]
  constructor
  · rintro ⟨path, _, ⟨hr, rfl⟩, rfl, rfl⟩
    exact ⟨path, hr, rfl, rfl⟩
  · rintro ⟨path, hr, rfl, rfl⟩
    exact ⟨path, _, ⟨hr, rfl⟩, rfl, rfl⟩

/-- The animation cannot be assembled when the output answers with a fault. -/
theorem take_assemble_error {s s' : RenderState α σ} {directory : String} {fault : Fault}
    (hdir : job.directory = some directory)
    (h : job.take d t report .assemble s = .error fault s') :
    (job.output.assemble ⟨d.basename, report.framePaths, directory, job.settings.frameDuration⟩
      s.output).result = .error fault ∧
      { s with
        output := (job.output.assemble
          ⟨d.basename, report.framePaths, directory, job.settings.frameDuration⟩ s.output).state
        notes := s.notes ++ ((job.output.assemble
          ⟨d.basename, report.framePaths, directory, job.settings.frameDuration⟩
            s.output).written.map Note.wrote).toArray } = s' := by
  simp only [take, framesDirectory, hdir, pure_bind, Render.bind_error, Render.ask_error,
    Render.pure_error, and_false, exists_false, or_false] at h
  exact h

/-- The animation is not assembled without a directory. -/
theorem take_assemble_of_none {s : RenderState α σ} (hdir : job.directory = none) :
    job.take d t report .assemble s = .error .noDirectory s := by
  rw [take, framesDirectory, hdir]
  rfl

/-- Steps that fail have a first one that fails. -/
theorem follow_error {s s' : RenderState α σ} {fault : Fault}
    (h : job.follow d t steps report s = .error fault s') :
    ∃ before step after reached s₁, steps = before ++ step :: after ∧
      job.follow d t before report s = .ok reached s₁ ∧
      job.take d t reached step s₁ = .error fault s' := by
  induction steps generalizing report s with
  | nil => cases h
  | cons step steps ih =>
    rw [follow_cons, Render.bind_error] at h
    rcases h with h | ⟨report₁, s₁, hstep, h⟩
    · exact ⟨[], step, steps, report, s, rfl, rfl, h⟩
    · obtain ⟨before, step', after, reached, s₂, rfl, hbefore, hfail⟩ := ih h
      refine ⟨step :: before, step', after, reached, s₂, rfl, ?_, hfail⟩
      rw [follow_cons, Render.bind_of_ok hstep]
      exact hbefore

end Job

end SceneScript
