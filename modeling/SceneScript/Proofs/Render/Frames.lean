import SceneScript.Output.Gallery
import SceneScript.Proofs.Animation.Directives
import SceneScript.Proofs.Animation.FrameFiles
import SceneScript.Proofs.Animation.Knobs
import SceneScript.Proofs.Render.Agree

/-!
# Frames do not depend on each other

A run goes through its frames in order, and between them it keeps the canvas, the stack and the
knobs. `Job.approach` is a run up to a frame and `Job.finish` what follows the frame's operations
(`Job.run_eq`). When a frame starts nothing is left of the frames before but the values of the
knobs (`RenderState.StartsFrame`): every exported frame ends with a reset
(`Job.renderFrames_range_ok`), and a still picture has no frame before. So the picture of a frame is
the one that its operations make in a state that has just been set up (`Job.frame_isolation`).
-/

namespace SceneScript

/-- A stack is determined by its entries. -/
theorem ScopeStack.entries_inj {α : Type} {s s' : ScopeStack α} (h : s.entries = s'.entries) :
    s = s' := by
  cases s
  cases s'
  cases h
  rfl

/-- The start of a frame, when the knobs have been given its values: no coordinate system but that
of the screen, a canvas as new, and the values that the timeline gives up to the frame. -/
structure RenderState.StartsFrame {α σ : Type} [Scalar α] (t : Timeline α) (initial : Knobs α)
    (new : Canvas α) (frame : Nat) (s : RenderState α σ) : Prop where
  stack : s.stack.entries = [.identity]
  canvas : s.canvas = new
  knobs : ∀ name, t.Gives initial (frame + 1) name (s.knobs.lookup? name)

/-- All starts of a frame show the same scene. -/
theorem RenderState.StartsFrame.sameScene {α σ τ : Type} [Scalar α] {t : Timeline α}
    {initial : Knobs α} {new : Canvas α} {frame : Nat} {s : RenderState α σ} {s' : RenderState α τ}
    (h : s.StartsFrame t initial new frame) (h' : s'.StartsFrame t initial new frame) :
    s.SameScene s' where
  stack := ScopeStack.entries_inj (h.stack.trans h'.stack.symm)
  canvas := h.canvas.trans h'.canvas.symm
  knobs name := (h.knobs name).unique (h'.knobs name)

/-! ## The first pass -/

/-- Notes and more notes. -/
theorem Render.note_append {α σ : Type} (ns ms : List (Note α)) :
    (note (ns ++ ms) : Render α σ Unit) = (do note ns; note ms) := by
  funext s
  show EStateM.Result.ok () { s with notes := s.notes ++ (ns ++ ms).toArray } =
    .ok () { s with notes := s.notes ++ ns.toArray ++ ms.toArray }
  rw [← List.append_toArray, Array.append_assoc]

section
variable {α σ : Type} [Machine] {ops : List (Operation α)} {d : Directives}

/-- What the first pass tells of a script: the directives, as far as it reads and writes them. -/
def Directives.told (ops : List (Operation α)) : List (Note α) :=
  match read ops with
  | .ok d => if Machine.writes d.frames then d.notes else d.nameNotes
  | .error _ => []

/-- The first pass tells what it has read, whether it takes it or not. -/
theorem Render.scan_eq (ops : List (Operation α)) : (scan ops : Render α σ Directives) = (do
    note (Directives.told ops)
    ofExcept (Directives.ofOperations ops)) := by
  unfold scan Directives.told
  rw [Directives.ofOperations_eq]
  cases Directives.read ops with
  | error fault => rfl
  | ok d =>
    simp only [ofExcept, pure_bind, Directives.check]
    cases Machine.writes d.frames with
    | true =>
      simp only [if_true, Directives.notes, note_append, bind_assoc, pure_bind]
    | false => rfl

/-- What is told of directives that are taken. -/
theorem Directives.told_of_ok (hd : ofOperations ops = .ok d) : told ops = d.notes := by
  obtain ⟨hread, hwrites⟩ := ofOperations_ok_iff_read.1 hd
  rw [told, hread]
  exact if_pos hwrites

/-- A first pass that takes the directives tells them. -/
theorem Render.scan_of_ok (hd : Directives.ofOperations ops = .ok d) :
    (scan ops : Render α σ Directives) = (do note d.notes; pure d) := by
  rw [scan_eq, hd, Directives.told_of_ok hd]
  rfl

end

namespace Job

variable {α σ : Type} [Scalar α] [Trig α]

/-- A run with the given directives and timeline up to the start of a frame: the paths of the frames
before. -/
def approach (job : Job α σ) (d : Directives) (t : Timeline α) (frame : Nat) :
    Render α σ (List String) := do
  Render.note d.notes
  Render.note (Timeline.notes job.operations d.frames)
  Render.note [.knobTable (← modifyGet fun s => (s.knobs, s))]
  Render.reset
  modify fun s => { s with saved := #[] }
  job.renderFrames d t (List.range frame)

/-- Gives the knobs their values in a frame. -/
def enter (t : Timeline α) (frame : Nat) : Render α σ Unit := do
  Render.bindKnobs (← ofExcept (t.bindings frame))

/-- The end of a run, when all frames are rendered: the report, and the animation if there is
one. -/
def close (job : Job α σ) (d : Directives) (paths : List String) : Render α σ Report := do
  let saved ← modifyGet fun s => (s.saved.toList, s)
  let report : Report :=
    { frames := d.frames, basename := d.basename, framePaths := paths, savedPaths := saved }
  if d.isAnimated then
    let directory ← job.framesDirectory
    let path ← Render.ask (job.output.assemble
      ⟨d.basename, report.framePaths, directory, job.settings.frameDuration⟩)
    pure { report with animation := some path }
  else pure report

/-- The rest of a run behind a frame, with the paths of the frames up to it. -/
def proceed (job : Job α σ) (d : Directives) (t : Timeline α) (frame : Nat) (paths : List String) :
    Render α σ Report := do
  let rest ← job.renderFrames d t (List.range' (frame + 1) (d.frames.toNat - (frame + 1)))
  job.close d (paths ++ rest)

/-- What is done when the operations of a frame have been performed: in an animation, the frame is
exported. -/
def leave (job : Job α σ) (d : Directives) (frame : Nat) : Render α σ (Option String) :=
  if d.isAnimated then some <$> job.exportFrame d frame else pure none

/-- The rest of a run behind the operations of a frame, with the paths of the frames before. -/
def finish (job : Job α σ) (d : Directives) (t : Timeline α) (frame : Nat) (paths : List String) :
    Render α σ Report := do
  let path ← job.leave d frame
  job.proceed d t frame (paths ++ path.toList)

variable {job : Job α σ} {d : Directives} {t : Timeline α}

/-- A frame is entered, its operations are performed, and it is left. -/
theorem renderFrame_eq {f : Nat} :
    job.renderFrame d t f = (do
      enter t f
      Render.execute job.settings job.output job.operations
      job.leave d f) := by
  simp only [enter, bind_assoc]
  rfl

/-- Rendering frames and more frames is rendering all of them. -/
theorem renderFrames_append (fs gs : List Nat) :
    job.renderFrames d t (fs ++ gs) = (do
      let paths ← job.renderFrames d t fs
      let rest ← job.renderFrames d t gs
      pure (paths ++ rest)) := by
  induction fs with
  | nil => simp [renderFrames]
  | cons f fs ih =>
    simp only [List.cons_append, renderFrames, ih, bind_assoc, pure_bind, List.append_assoc]

/-- The frames of a run are those before a frame, the frame, and those behind it. -/
theorem range_eq_append {f n : Nat} (h : f < n) :
    List.range n = List.range f ++ f :: List.range' (f + 1) (n - (f + 1)) := by
  have hn : f + (n - (f + 1) + 1) = n := by omega
  rw [← List.range'_succ, List.range_eq_range', List.range_eq_range']
  simpa [hn] using (List.range'_append_1 (s := 0) (m := f) (n := n - (f + 1) + 1)).symm

/-- A run comes to each of its frames, performs the operations in it, and goes on. -/
theorem run_eq {f : Nat} (hd : Directives.ofOperations job.operations = .ok d)
    (ht : Timeline.ofOperations job.operations d.frames = .ok t) (hf : f < d.frames) :
    job.run = (do
      let paths ← job.approach d t f
      enter t f
      Render.execute job.settings job.output job.operations
      job.finish d t f paths) := by
  have hlt : f < d.frames.toNat := by omega
  simp only [run, prepare, renderAll, approach, finish, proceed, close, range_eq_append hlt,
    renderFrames_append, renderFrames, renderFrame_eq, Render.scan_of_ok hd, ht, ofExcept,
    bind_assoc, pure_bind, List.append_assoc]

/-- A run that returns has read its directives and its ramps. -/
theorem passes_of_run_ok {s s' : RenderState α σ} {report : Report}
    (h : job.run s = .ok report s') : ∃ d t, Directives.ofOperations job.operations = .ok d ∧
      Timeline.ofOperations job.operations d.frames = .ok t := by
  simp only [run, prepare, Render.scan_eq, Render.bind_ok, Render.ofExcept_ok] at h
  obtain ⟨_, _, ⟨d, _, ⟨_, _, -, hd, -⟩, _, _, -, t, _, ⟨ht, -⟩, -⟩, -⟩ := h
  exact ⟨d, t, hd, ht⟩

/-- A run renders all its frames and closes. -/
theorem run_eq_close (hd : Directives.ofOperations job.operations = .ok d)
    (ht : Timeline.ofOperations job.operations d.frames = .ok t) :
    job.run = (do
      let paths ← job.approach d t d.frames.toNat
      job.close d paths) := by
  simp only [run, prepare, renderAll, approach, close, Render.scan_of_ok hd, ht, ofExcept,
    bind_assoc, pure_bind]

end Job

section
variable {α : Type}

/-- A canvas that can be made is empty. -/
theorem Canvas.create_ok {width height : Int} {background : Rgb.Parts} {new : Canvas α}
    (h : Canvas.create width height background = .ok new) :
    new = .blank new.extent new.background := by
  unfold create at h
  cases hcol : Block.check ⟨[height, width, 3], 1, "uint8"⟩ with
  | error fault => rw [hcol] at h; cases h
  | ok =>
    cases hdep : Block.check ⟨[height, width], 8, "float64"⟩ with
    | error fault => rw [hcol, hdep] at h; cases h
    | ok =>
      cases hfill : background.fill with
      | error fault => rw [hcol, hdep, hfill] at h; cases h
      | ok rgb => rw [hcol, hdep, hfill] at h; cases h; rfl

end

namespace Job

section
variable {α σ : Type} {s s' : RenderState α σ} {t : Timeline α} {f : Nat}

/-- A frame of the timeline can be entered, and binds the knobs as the timeline says. -/
theorem enter_of_lt (hf : f < t.slots.size) : ∃ s', enter t f s = .ok () s' ∧
    s'.stack = s.stack ∧ s'.canvas = s.canvas ∧ s'.output = s.output ∧
    ∀ name, s'.knobs.lookup? name = (t.bound? f name).or (s.knobs.lookup? name) := by
  refine ⟨{ s with knobs := s.knobs.merge t.slots[f] }, ?_, rfl, rfl, rfl, fun name => ?_⟩
  · rw [enter, Timeline.bindings_of_lt hf]
    rfl
  · rw [Timeline.bound?_of_lt hf]
    exact Knobs.lookup?_merge _ _ name

/-- A frame that is entered has bound its knobs, and nothing else has changed. -/
theorem enter_ok (h : enter t f s = .ok () s') :
    ∃ bindings, t.bindings f = .ok bindings ∧ { s with knobs := s.knobs.merge bindings } = s' := by
  simp only [enter, Render.bind_ok, Render.ofExcept_ok, Render.bindKnobs, Render.modify_ok] at h
  obtain ⟨bindings, _, ⟨hb, rfl⟩, hs⟩ := h
  exact ⟨bindings, hb, hs⟩

end

section
variable {α σ : Type} [Scalar α] {job : Job α σ} {d : Directives} {s s' : RenderState α σ} {f : Nat}

/-- The export of a frame that can be named. -/
theorem exportFrame_of_namesFrame (hname : d.NamesFrame f) : job.exportFrame d f = (do
    let directory ← job.framesDirectory
    let p ← Render.picture
    let path ← Render.ask (job.output.save p (d.framePath directory f))
    Render.reset
    Render.note [.frameDone f d.frames]
    pure path) := by
  rw [exportFrame, hname.frameFilename_eq]
  rfl

/-- A frame that cannot be named is not exported. -/
theorem exportFrame_of_not_namesFrame (hname : ¬ d.NamesFrame f) :
    job.exportFrame d f s = .error .tooLong s := by
  rw [exportFrame, Directives.frameFilename_of_not_namesFrame hname]
  rfl

/-- A frame is exported when it can be named and the output answers, and leaves a new stack and an
empty canvas. -/
theorem exportFrame_ok_iff {directory path : String} (hdir : job.directory = some directory) :
    job.exportFrame d f s = .ok path s' ↔ d.NamesFrame f ∧
      (job.output.save s.canvas.picture (d.framePath directory f) s.output).result = .ok path ∧
      { s with
        stack := .initial
        canvas := s.canvas.clear
        output := (job.output.save s.canvas.picture (d.framePath directory f) s.output).state
        notes := s.notes ++ ((job.output.save s.canvas.picture (d.framePath directory f)
          s.output).written.map Note.wrote).toArray ++ #[.frameDone f d.frames] } = s' := by
  by_cases hname : d.NamesFrame f
  · simp only [exportFrame_of_namesFrame hname, framesDirectory, hdir, pure_bind, Render.picture,
      Render.reset, Render.bind_ok, Render.pure_ok, Render.read_ok, Render.ask_ok,
      Render.modify_ok, Render.note_ok, hname, true_and]
    constructor
    · rintro ⟨_, _, ⟨rfl, rfl⟩, _, _, ⟨hr, rfl⟩, _, _, rfl, _, _, rfl, rfl, rfl⟩
      exact ⟨hr, rfl⟩
    · rintro ⟨hr, rfl⟩
      exact ⟨_, _, ⟨rfl, rfl⟩, path, _, ⟨hr, rfl⟩, (), _, rfl, (), _, rfl, rfl, rfl⟩
  · rw [exportFrame_of_not_namesFrame hname]
    exact ⟨(by intro h; cases h), fun h => absurd h.1 hname⟩

/-- A frame that can be named is not exported without a directory. -/
theorem exportFrame_of_none (hdir : job.directory = none) (hname : d.NamesFrame f) :
    job.exportFrame d f s = .error .noDirectory s := by
  rw [exportFrame_of_namesFrame hname, framesDirectory, hdir]
  rfl

/-- A frame that is exported goes to a directory. -/
theorem exists_directory_of_exportFrame {path : String}
    (h : job.exportFrame d f s = .ok path s') : ∃ directory, job.directory = some directory := by
  cases hdir : job.directory with
  | none =>
    by_cases hname : d.NamesFrame f
    · cases (exportFrame_of_none hdir hname).symm.trans h
    · cases (exportFrame_of_not_namesFrame hname).symm.trans h
  | some directory => exact ⟨directory, rfl⟩

/-- An exported frame leaves a new stack, an empty canvas and the knobs as they were. -/
theorem exportFrame_ok {path : String} (h : job.exportFrame d f s = .ok path s') :
    s'.stack = .initial ∧ s'.canvas = s.canvas.clear ∧ s'.knobs = s.knobs := by
  obtain ⟨directory, hdir⟩ := exists_directory_of_exportFrame h
  obtain ⟨-, -, rfl⟩ := (exportFrame_ok_iff hdir).1 h
  exact ⟨rfl, rfl, rfl⟩

end

section
variable {α σ : Type} [Scalar α] [Trig α] {job : Job α σ} {d : Directives} {t : Timeline α}
  {s s' : RenderState α σ} {f : Nat}

/-- Between the frames of an animation the stack is new and the canvas is empty, and the knobs have
the values that the timeline gives them up to there. -/
theorem renderFrames_range_ok {new : Canvas α} {paths : List String}
    (hd : d.isAnimated = true ∨ f = 0) (hf : f ≤ t.slots.size) (hnew : new.clear = new)
    (hs : s.stack = .initial) (hc : s.canvas = new)
    (h : job.renderFrames d t (List.range f) s = .ok paths s') :
    s'.stack = .initial ∧ s'.canvas = new ∧
      ∀ name, t.Gives s.knobs f name (s'.knobs.lookup? name) := by
  induction f generalizing paths s' with
  | zero =>
    obtain ⟨-, rfl⟩ := Render.pure_ok.1 h
    exact ⟨hs, hc, fun name => .initial fun frame hl => absurd hl (Nat.not_lt_zero _)⟩
  | succ f ih =>
    have hd : d.isAnimated = true := hd.resolve_right (Nat.succ_ne_zero f)
    rw [List.range_succ, renderFrames_append] at h
    simp only [renderFrames, renderFrame_eq, leave, hd, if_true, Render.bind_ok] at h
    obtain ⟨before, s₁, hbefore, rest, s₂, hframe, hpure⟩ := h
    obtain ⟨path, s₃, ⟨_, s₄, henter, _, s₅, hexec, hleave⟩, _, _, hnil, hrest⟩ := hframe
    obtain ⟨-, rfl⟩ := Render.pure_ok.1 hpure
    obtain ⟨-, rfl⟩ := Render.pure_ok.1 hnil
    obtain ⟨-, rfl⟩ := Render.pure_ok.1 hrest
    obtain ⟨-, hc₁, hk₁⟩ := ih (.inl hd) (Nat.le_of_succ_le hf) hbefore
    obtain ⟨s₄', henter', -, hc₄, -, hk₄⟩ := enter_of_lt (s := s₁) hf
    cases henter'.symm.trans henter
    obtain ⟨hk₅, hc₅⟩ := Render.execute_keeps hexec
    rw [map_eq_pure_bind, Render.bind_ok] at hleave
    obtain ⟨_, s₆, hexport, hpath⟩ := hleave
    obtain ⟨-, rfl⟩ := Render.pure_ok.1 hpath
    obtain ⟨hs₆, hc₆, hk₆⟩ := exportFrame_ok hexport
    refine ⟨hs₆, ?_, fun name => ?_⟩
    · rw [hc₆, hc₅, hc₄, hc₁, hnew]
    · rw [hk₆, hk₅, hk₄]
      exact (hk₁ name).next

/-- A run comes to a frame with a new stack, an empty canvas, and the knobs as the frames before
have left them. -/
theorem approach_ok {paths : List String} (hd : d.isAnimated = true ∨ f = 0)
    (hf : f ≤ t.slots.size) (h : job.approach d t f s = .ok paths s') :
    s'.stack = .initial ∧ s'.canvas = s.canvas.clear ∧
      ∀ name, t.Gives s.knobs f name (s'.knobs.lookup? name) := by
  simp only [approach, Render.bind_ok, Render.note_ok, Render.read_ok, Render.reset,
    Render.modify_ok] at h
  obtain ⟨_, _, rfl, _, _, rfl, _, _, ⟨-, rfl⟩, _, _, rfl, _, _, rfl, _, _, rfl, h⟩ := h
  have hclear : s.canvas.clear.clear = s.canvas.clear := rfl
  obtain ⟨hs, hc, hk⟩ := renderFrames_range_ok hd hf hclear rfl rfl h
  exact ⟨hs, hc, hk⟩

/-- A still picture stays on the canvas when its operations have been performed. -/
theorem finish_still (hd : d.frames = 1) (paths : List String) :
    ∃ report, job.finish d t 0 paths s = .ok report s := by
  have hn : d.isAnimated = false := by simp [Directives.isAnimated, hd]
  simp only [finish, leave, proceed, close, hn, hd]
  exact ⟨_, rfl⟩

/-- A frame of an animation is saved when its operations have been performed. -/
theorem finish_animated {directory : String} (hd : d.isAnimated = true) (hname : d.NamesFrame f)
    (hdir : job.directory = some directory) (paths : List String) :
    job.finish d t f paths s = (do
      let path ← Render.ask (job.output.save s.canvas.picture (d.framePath directory f))
      Render.reset
      Render.note [.frameDone f d.frames]
      job.proceed d t f (paths ++ [path])) s := by
  simp only [finish, leave, exportFrame_of_namesFrame hname, framesDirectory, hd, hdir, if_true,
    map_eq_pure_bind, bind_assoc, pure_bind]
  rfl

/-- Frame isolation. Whatever a run has drawn before, on a canvas of the size and background of its
settings, each of its frames starts as if it were the first: with the coordinate system of the
screen alone, an empty canvas, and the last value of each knob that is bound up to that frame, or
else its initial one. So the picture of the frame, which a still run leaves on the canvas and an
animation saves, is that of its operations performed once in a state that is new but for those
values of the knobs. -/
theorem frame_isolation (hd : Directives.ofOperations job.operations = .ok d)
    (ht : Timeline.ofOperations job.operations d.frames = .ok t) (hf : f < d.frames)
    {new : Canvas α} {s₀ s₁ : RenderState α σ} {paths : List String}
    (hnew : Canvas.create job.settings.width job.settings.height job.settings.background = .ok new)
    (hext : s₀.canvas.extent = new.extent) (hback : s₀.canvas.background = new.background)
    (hreach : job.approach d t f s₀ = .ok paths s₁) :
    (∀ x y, new.extent.Contains x y → new.cell? x y = some (none, new.background)) ∧
    ∃ s, enter t f s₁ = .ok () s ∧ s.StartsFrame t s₀.knobs new f ∧
      -- the run goes on from there with the operations of the frame
      job.run s₀ = (do
        Render.execute job.settings job.output job.operations
        job.finish d t f paths) s ∧
      (∀ s', Render.execute job.settings job.output job.operations s = .ok () s' →
        (d.frames = 1 → ∃ report, job.run s₀ = .ok report s') ∧
        (1 < d.frames → ∀ directory, job.directory = some directory →
          job.run s₀ = (do
            let path ← Render.ask (job.output.save s'.canvas.picture (d.framePath directory f))
            Render.reset
            Render.note [.frameDone f d.frames]
            job.proceed d t f (paths ++ [path])) s')) ∧
      -- and a state that is new but for the knobs is as good, whatever the output is
      (∀ (τ : Type) (out : Output τ) (fresh : RenderState α τ),
        fresh.StartsFrame t s₀.knobs new f → ∀ s' fresh',
        Render.execute job.settings job.output job.operations s = .ok () s' →
        Render.execute job.settings out job.operations fresh = .ok () fresh' →
        s'.canvas = fresh'.canvas) ∧
      ∀ fresh : RenderState α σ, fresh.StartsFrame t s₀.knobs new f → fresh.output = s.output →
        Render.SameOutcome (Render.execute job.settings job.output job.operations s)
          (Render.execute job.settings job.output job.operations fresh) := by
  have hsize : f < t.slots.size := by
    rw [Timeline.size_ofOperations ht]
    omega
  have hfirst : d.isAnimated = true ∨ f = 0 := by
    simp only [Directives.isAnimated, decide_eq_true_eq]
    omega
  have hclear : s₀.canvas.clear = new := by
    rw [Canvas.clear_eq_blank, hext, hback]
    exact (Canvas.create_ok hnew).symm
  obtain ⟨hs₁, hc₁, hk₁⟩ := approach_ok hfirst (Nat.le_of_lt hsize) hreach
  obtain ⟨s, henter, hst, hc, -, hk⟩ := enter_of_lt (s := s₁) hsize
  have hstart : s.StartsFrame t s₀.knobs new f := by
    refine ⟨?_, by rw [hc, hc₁, hclear], fun name => ?_⟩
    · rw [hst, hs₁]
      rfl
    · rw [hk]
      exact (hk₁ name).next
  have hrun : job.run s₀ = (do
      Render.execute job.settings job.output job.operations
      job.finish d t f paths) s := by
    rw [run_eq hd ht hf, Render.bind_of_ok hreach, Render.bind_of_ok henter]
  refine ⟨fun x y hxy => ?_, s, henter, hstart, hrun, fun s' hexec => ?_, ?_, ?_⟩
  · rw [Canvas.create_ok hnew]
    exact Canvas.cell?_blank hxy
  · have hfinish : job.run s₀ = job.finish d t f paths s' := by
      rw [hrun, Render.bind_of_ok hexec]
    refine ⟨fun hn => ?_, fun hn directory hdir => ?_⟩
    · obtain rfl : f = 0 := by omega
      rw [hfinish]
      exact finish_still hn paths
    · rw [hfinish]
      exact finish_animated (by simpa [Directives.isAnimated] using hn)
        (Directives.namesFrame_of_lt (Directives.writes_frames hd) hf) hdir paths
  · intro τ out fresh hfresh s' fresh' hexec hexec'
    exact (Render.sameScene_execute hexec hexec' (hstart.sameScene hfresh)).canvas
  · intro fresh hfresh hout
    exact Render.blind_execute _ _ ⟨hstart.sameScene hfresh, hout.symm⟩

end

/-- A dot that moves to the right in the second of two frames. Its script leaves a scope open. -/
def movingDot : Job Float Gallery where
  operations := [.push, .move ⟨1, 0, 0⟩ (some "k"), .line ⟨0, 0, 0⟩ ⟨0, 0, 0⟩,
    .frames (.whole 2), .vary ⟨"k", 1, 1, 1, 1⟩]
  settings := { width := 2, height := 1, surface := ⟨⟨0, 0, 1⟩, fun _ => .ok .black⟩ }
  directory := some "frames"
  output := Gallery.output {}

/-- A state that an earlier run has drawn in and has stopped in, within a scope. -/
def usedState : RenderState Float Gallery where
  stack := ⟨.identity, [.identity]⟩
  knobs := .ofList [("k", 0)]
  canvas := (Canvas.blank ⟨2, 1⟩ .white).paint [⟨0, 0, 1, .black⟩]
  output := {}

/-- The second frame of the moving dot starts afresh, with the knob that is bound in it. -/
theorem frame_isolation_movingDot : ∃ t new paths s₁ s,
    Timeline.ofOperations movingDot.operations 2 = .ok t ∧
    Canvas.create 2 1 (.ofRgb .white) = .ok new ∧
    movingDot.approach ⟨2, "basename", true⟩ t 1 usedState = .ok paths s₁ ∧
    enter t 1 s₁ = .ok () s ∧ s.StartsFrame t usedState.knobs new 1 ∧
    s.knobs.lookup? "k" = some 1 := by
  have hd : Directives.ofOperations movingDot.operations = .ok ⟨2, "basename", true⟩ := rfl
  have ht : Timeline.ofOperations movingDot.operations 2 =
    .ok ⟨#[.empty, .ofList [("k", 1)]]⟩ := rfl
  have hnew : Canvas.create movingDot.settings.width movingDot.settings.height
    movingDot.settings.background = .ok (.blank ⟨2, 1⟩ .white : Canvas Float) := rfl
  have hpaths : Render.result? (movingDot.approach ⟨2, "basename", true⟩
      ⟨#[.empty, .ofList [("k", 1)]]⟩ 1 usedState) = some ["frames/basename000.png"] := by
    decide +kernel
  have hreach := Render.eq_ok_of_result? hpaths
  obtain ⟨-, s, henter, hstart, -⟩ := frame_isolation hd ht (by decide) hnew rfl rfl hreach
  refine ⟨_, _, _, _, s, ht, hnew, hreach, henter, hstart, ?_⟩
  obtain ⟨bindings, hb, rfl⟩ := enter_ok henter
  cases hb
  exact Knobs.lookup?_merge _ _ "k"

end Job

end SceneScript
