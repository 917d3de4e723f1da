import SceneScript.Proofs.Animation.FrameFiles
import SceneScript.Proofs.Raster.Picture
import SceneScript.Proofs.Render.Frames
import SceneScript.Proofs.Render.Journal
import SceneScript.Proofs.Render.Systems

/-!
# What a run asks for

The calls of a run that returns are those of its frames, in order, and one that assembles the
animation (`Job.output_schedule`). The calls of a frame are those of its requests, each with the
picture of what the operations before it have left (`Operation.Asks`), and in an animation one that
saves the finished picture (`Job.FrameCalls`). An operation adds its call to the journal
(`Performs.asks`), a list of operations those of its requests (`execute_asks`), and the frames of a
range those of each frame (`Job.renderFrames_range_calls`).
-/

namespace SceneScript

namespace Operation

/-- The call of a request behind the operations before it in a frame: the output is handed a picture
that shows the canvas as these leave it. -/
inductive Asks {α σ : Type} [Scalar α] [Trig α] (settings : Settings α) (out : Output σ)
    (start : RenderState α σ) : List (Operation α) × Operation α → Call → Prop
  | save : Render.execute settings out before start = .ok () s → p.Shows s.canvas →
      Asks settings out start (before, .save file) ⟨.save p file, .ok (some file)⟩
  | display : Render.execute settings out before start = .ok () s → p.Shows s.canvas →
      Asks settings out start (before, .display) ⟨.display p, .ok none⟩

end Operation

section
variable {α σ : Type} [Scalar α] [Trig α]

/-- The calls of a frame of a run from `s₀`. They start from the screen, an empty canvas and the
knobs of the frame, and go through the operations in order; in an animation, a picture that shows
the canvas in the end is saved as the frame. -/
def Job.FrameCalls (job : Job α σ) (d : Directives) (t : Timeline α) (directory : String)
    (s₀ : RenderState α σ) (frame : Nat) (calls : List Call) : Prop :=
  ∃ start done asked p, start.StartsFrame t s₀.knobs s₀.canvas.clear frame ∧
    Render.execute job.settings job.output job.operations start = .ok () done ∧
    Picture.Shows p done.canvas ∧
    List.Forall₂ (Operation.Asks job.settings job.output start)
      ((Operation.inContext [] job.operations).filter (·.2.isRequest)) asked ∧
    calls = asked ++
      if 1 < d.frames then
        [⟨.save p (d.framePath directory frame), .ok (some (d.framePath directory frame))⟩]
      else []

end

namespace Render

section
variable {α σ : Type} [Scalar α] [Trig α] {settings : Settings α} {out : Output σ}
  {start s' : RenderState α σ} {before ops : List (Operation α)} {op : Operation α}

/-- Executing operations and one more. -/
theorem execute_snoc (hbefore : execute settings out before start = .ok () s')
    {s'' : RenderState α σ} (h : perform settings out op s' = .ok () s'') :
    execute settings out (before ++ [op]) start = .ok () s'' :=
  execute_append_ok.2 ⟨_, hbefore, execute_cons_ok.2 ⟨_, h, execute_nil_ok.2 rfl⟩⟩

variable {s t : RenderState α (Journal σ)}

/-- What an operation adds to the journal and to the files saved. -/
theorem Performs.asks (hout : out.Faithful)
    (hbefore : execute settings out before start = .ok () s.plain)
    (h : Performs settings out.journaled op s t) :
    t.saved.toList = s.saved.toList ++ op.file?.toList ∧
      ∃ asked, t.output.calls = s.output.calls ++ asked ∧
        List.Forall₂ (Operation.Asks settings out start) ([(before, op)].filter (·.2.isRequest))
          asked := by
  cases h with
  | push | pop => exact ⟨by simp [Operation.file?], [], by simp, .nil⟩
  | moves hm =>
    have hkind : op.file? = none ∧ op.isRequest = false := by cases hm <;> exact ⟨rfl, rfl⟩
    exact ⟨by simp [hkind.1], [], by simp, by simp [hkind.2]⟩
  | draws ho =>
    have hkind : op.file? = none ∧ op.isRequest = false := by cases ho <;> exact ⟨rfl, rfl⟩
    exact ⟨by simp [hkind.1], [], by simp, by simp [hkind.2]⟩
  | save hr =>
    obtain rfl := hout _ _ _ _ hr
    exact ⟨by simp [Operation.file?], [_], Reply.calls_journaled_ok hr ..,
      .cons (.save hbefore s.canvas.shows_picture) .nil⟩
  | display hr =>
    exact ⟨by simp [Operation.file?], [_], Reply.calls_journaled_ok hr ..,
      .cons (.display hbefore s.canvas.shows_picture) .nil⟩
  | directive hd =>
    have hkind : op.file? = none ∧ op.isRequest = false := by
      cases op with
      | frames | basename | vary => exact ⟨rfl, rfl⟩
      | _ => cases hd
    exact ⟨by simp [hkind.1], [], by simp, by simp [hkind.2]⟩

/-- What a list of operations adds to the journal and to the files saved. -/
theorem execute_asks (hout : out.Faithful)
    (hbefore : execute settings out before start = .ok () s.plain)
    (h : execute settings out.journaled ops s = .ok () t) :
    t.saved.toList = s.saved.toList ++ ops.filterMap Operation.file? ∧
      ∃ asked, t.output.calls = s.output.calls ++ asked ∧
        List.Forall₂ (Operation.Asks settings out start)
          ((Operation.inContext before ops).filter (·.2.isRequest)) asked := by
  induction ops generalizing before s with
  | nil =>
    obtain rfl := execute_nil_ok.1 h
    exact ⟨by simp, [], by simp, .nil⟩
  | cons op ops ih =>
    obtain ⟨s₁, hp, h⟩ := execute_cons_ok.1 h
    have hplain : perform settings out op s.plain = .ok () s₁.plain := journals_perform.ok hp
    obtain ⟨hsaved, asked, hasked, hop⟩ := (perform_ok hp).asks hout hbefore
    obtain ⟨hsaved', asked', hasked', hops⟩ := ih (execute_snoc hbefore hplain) h
    refine ⟨?_, asked ++ asked', by rw [hasked', hasked, List.append_assoc], ?_⟩
    · rw [hsaved', hsaved, List.append_assoc]
      cases op <;> rfl
    · rw [Operation.inContext, ← List.singleton_append, List.filter_append]
      exact List.rel_append hop hops

end

end Render

namespace Job

section
variable {α σ : Type} {job : Job α σ} {d : Directives} {directory : String}

/-- An animation is assembled from the frames in the end. -/
theorem close_animated (hdir : job.directory = some directory) (hn : 1 < d.frames)
    {s s' : RenderState α (Journal σ)} {paths : List String} {report : Report}
    (h : job.journaled.close d paths s = .ok report s') : ∃ animation,
      report = ⟨d.frames, d.basename, paths, s.saved.toList, some animation⟩ ∧
      s'.output.calls = s.output.calls ++
        [⟨.assemble ⟨d.basename, paths, directory, job.settings.frameDuration⟩,
          .ok (some animation)⟩] := by
  have hdir : job.journaled.directory = some directory := hdir
  simp only [close, Directives.isAnimated, decide_eq_true hn, if_true, framesDirectory, hdir,
    Render.bind_ok, Render.read_ok, Render.pure_ok, Render.ask_ok] at h
  obtain ⟨_, _, ⟨rfl, rfl⟩, _, _, ⟨rfl, rfl⟩, path, _, ⟨hr, rfl⟩, rfl, rfl⟩ := h
  have hr : (job.output.assemble _ s.output.state).result = .ok path := hr
  exact ⟨path, rfl, Reply.calls_journaled_ok hr ..⟩

/-- Nothing is left to be done in the end for a still picture. -/
theorem close_still (hn : ¬ 1 < d.frames) {s s' : RenderState α σ} {paths : List String}
    {report : Report} (h : job.close d paths s = .ok report s') :
    report = ⟨d.frames, d.basename, paths, s.saved.toList, none⟩ ∧ s' = s := by
  simp only [close, Directives.isAnimated, decide_eq_false hn, Render.bind_ok, Render.read_ok] at h
  obtain ⟨_, _, ⟨rfl, rfl⟩, h⟩ := h
  obtain ⟨rfl, rfl⟩ := Render.pure_ok.1 h
  exact ⟨rfl, rfl⟩

end

section
variable {α σ : Type} [Scalar α] {job : Job α σ} {d : Directives} {f : Nat}
  {directory path : String} {s s' : RenderState α (Journal σ)}

/-- The call of a frame that is exported. -/
theorem exportFrame_asks (hout : job.output.Faithful) (hdir : job.directory = some directory)
    (h : job.journaled.exportFrame d f s = .ok path s') :
    path = d.framePath directory f ∧ s'.saved = s.saved ∧ s'.output.calls = s.output.calls ++
      [⟨.save s.canvas.picture (d.framePath directory f),
        .ok (some (d.framePath directory f))⟩] := by
  have hdir : job.journaled.directory = some directory := hdir
  obtain ⟨-, hr, rfl⟩ := (exportFrame_ok_iff hdir).1 h
  obtain rfl := hout _ _ _ _ hr
  exact ⟨rfl, rfl, Reply.calls_journaled_ok hr ..⟩

end

section
variable {α σ : Type} [Scalar α] [Trig α] {job : Job α σ} {d : Directives} {t : Timeline α}
  {directory : String} {f : Nat}

/-- The calls of a frame, from the state in which the frames before have left the run. -/
theorem renderFrame_calls (hout : job.output.Faithful) (hdir : job.directory = some directory)
    {s₀ : RenderState α σ} {s s' : RenderState α (Journal σ)} {path : Option String}
    (hf : f < t.slots.size) (hs : s.stack = .initial) (hc : s.canvas = s₀.canvas.clear)
    (hk : ∀ name, t.Gives s₀.knobs f name (s.knobs.lookup? name))
    (h : job.journaled.renderFrame d t f s = .ok path s') :
    path = (if 1 < d.frames then some (d.framePath directory f) else none) ∧
      s'.saved.toList = s.saved.toList ++ job.operations.filterMap Operation.file? ∧
      ∃ calls, job.FrameCalls d t directory s₀ f calls ∧
        s'.output.calls = s.output.calls ++ calls := by
  rw [renderFrame_eq] at h
  simp only [Render.bind_ok] at h
  obtain ⟨_, s₁, henter, _, s₂, hexec, hleave⟩ := h
  have hstart : s₁.plain.StartsFrame t s₀.knobs s₀.canvas.clear f := by
    obtain ⟨s₁', henter', hst, hcan, -, hkn⟩ := enter_of_lt (s := s) hf
    cases henter'.symm.trans henter
    refine ⟨?_, hcan.trans hc, fun name => ?_⟩
    · show s₁.stack.entries = _
      rw [hst, hs]
      rfl
    · show t.Gives _ _ name (s₁.knobs.lookup? name)
      rw [hkn]
      exact (hk name).next
  have hdone : Render.execute job.settings job.output job.operations s₁.plain = .ok () s₂.plain :=
    Render.journals_execute.ok hexec
  obtain ⟨hsaved, asked, hasked, hops⟩ :=
    Render.execute_asks hout (Render.execute_nil_ok.2 rfl) hexec
  obtain ⟨_, -, rfl⟩ := enter_ok henter
  unfold leave at hleave
  by_cases hn : 1 < d.frames
  · rw [Directives.isAnimated, decide_eq_true hn, if_pos rfl, map_eq_pure_bind,
      Render.bind_ok] at hleave
    obtain ⟨_, _, hexport, hpure⟩ := hleave
    obtain ⟨rfl, rfl⟩ := Render.pure_ok.1 hpure
    obtain ⟨rfl, hsaved', hcall⟩ := exportFrame_asks hout hdir hexport
    refine ⟨(if_pos hn).symm, (congrArg _ hsaved').trans hsaved, _,
      ⟨_, _, asked, _, hstart, hdone, s₂.canvas.shows_picture, hops, rfl⟩, ?_⟩
    rw [if_pos hn, hcall, hasked, List.append_assoc]
  · rw [Directives.isAnimated, decide_eq_false hn] at hleave
    obtain ⟨rfl, rfl⟩ := Render.pure_ok.1 hleave
    refine ⟨(if_neg hn).symm, hsaved, _,
      ⟨_, _, asked, _, hstart, hdone, s₂.canvas.shows_picture, hops, rfl⟩, ?_⟩
    rw [if_neg hn, List.append_nil]
    exact hasked

/-- The calls of the first frames of a run, from the screen and an empty canvas. -/
theorem renderFrames_range_calls (hout : job.output.Faithful)
    (hdir : job.directory = some directory) {s₀ : RenderState α σ}
    {s s' : RenderState α (Journal σ)} {paths : List String}
    (hd : d.isAnimated = true ∨ f ≤ 1) (hf : f ≤ t.slots.size) (hs : s.stack = .initial)
    (hc : s.canvas = s₀.canvas.clear) (hk : s.knobs = s₀.knobs)
    (h : job.journaled.renderFrames d t (List.range f) s = .ok paths s') :
    paths = (if 1 < d.frames then (List.range f).map fun f => d.framePath directory f else []) ∧
      s'.saved.toList = s.saved.toList ++
        (List.replicate f (job.operations.filterMap Operation.file?)).flatten ∧
      ∃ frames, List.Forall₂ (job.FrameCalls d t directory s₀) (List.range f) frames ∧
        s'.output.calls = s.output.calls ++ frames.flatten := by
  induction f generalizing paths s' with
  | zero =>
    obtain ⟨rfl, rfl⟩ := Render.pure_ok.1 h
    exact ⟨by simp, by simp, [], .nil, by simp⟩
  | succ f ih =>
    have hd' : d.isAnimated = true ∨ f = 0 := hd.imp_right fun h => by omega
    rw [List.range_succ, renderFrames_append] at h
    simp only [renderFrames, Render.bind_ok] at h
    obtain ⟨before, s₁, hbefore, rest, s₂, ⟨path, s₃, hframe, _, _, hnil, hrest⟩, hpure⟩ := h
    obtain ⟨rfl, rfl⟩ := Render.pure_ok.1 hpure
    obtain ⟨rfl, rfl⟩ := Render.pure_ok.1 hnil
    obtain ⟨rfl, rfl⟩ := Render.pure_ok.1 hrest
    obtain ⟨rfl, hsaved, frames, hframes, hcalls⟩ :=
      ih (hd'.imp_right fun h => by omega) (Nat.le_of_succ_le hf) hbefore
    obtain ⟨hs₁, hc₁, hk₁⟩ :=
      renderFrames_range_ok hd' (Nat.le_of_succ_le hf) rfl hs hc hbefore
    obtain ⟨rfl, hsaved', calls, hcall, hcalls'⟩ :=
      renderFrame_calls hout hdir hf hs₁ hc₁ (hk ▸ hk₁) hframe
    refine ⟨?_, ?_, frames ++ [calls], ?_, ?_⟩
    · split <;> simp [List.range_succ]
    · rw [hsaved', hsaved, List.append_assoc, List.replicate_succ', List.flatten_concat]
    · rw [List.range_succ]
      exact List.rel_append hframes (.cons hcall .nil)
    · rw [hcalls', hcalls, List.append_assoc, List.flatten_concat]

/-- The calls of a run up to a frame. -/
theorem approach_calls (hout : job.output.Faithful) (hdir : job.directory = some directory)
    {s₀ : RenderState α σ} {s' : RenderState α (Journal σ)} {paths : List String}
    (hd : d.isAnimated = true ∨ f ≤ 1) (hf : f ≤ t.slots.size)
    (h : job.journaled.approach d t f s₀.journaled = .ok paths s') :
    paths = (if 1 < d.frames then (List.range f).map fun f => d.framePath directory f else []) ∧
      s'.saved.toList = (List.replicate f (job.operations.filterMap Operation.file?)).flatten ∧
      ∃ frames, List.Forall₂ (job.FrameCalls d t directory s₀) (List.range f) frames ∧
        s'.output.calls = frames.flatten := by
  simp only [approach, Render.bind_ok, Render.note_ok, Render.read_ok, Render.reset,
    Render.modify_ok] at h
  obtain ⟨_, _, rfl, _, _, rfl, _, _, ⟨-, rfl⟩, _, _, rfl, _, _, rfl, _, _, rfl, h⟩ := h
  exact renderFrames_range_calls hout hdir hd hf rfl rfl rfl h

/-- The schedule of the output. A run that returns has called its output for each frame in order,
and in it for each request of the script in order, with a picture that shows what the operations
before it in the frame have left; in an animation, then once more for the frame. Behind the frames
an animation is assembled from their paths, which are pairwise different, and no call is made
otherwise. The report tells the frames, their paths, the files that the script has saved, once for
each frame, and the animation. -/
theorem output_schedule {s₀ s' : RenderState α σ} {report : Report}
    (hout : job.output.Faithful) (hdir : job.directory = some directory)
    (h : job.run s₀ = .ok report s') :
    ∃ d t frames, Directives.ofOperations job.operations = .ok d ∧
      Timeline.ofOperations job.operations d.frames = .ok t ∧
      List.Forall₂ (job.FrameCalls d t directory s₀) (List.range d.frames.toNat) frames ∧
      report.frames = d.frames ∧ report.basename = d.basename ∧ report.framePaths.Nodup ∧
      report.savedPaths =
        (List.replicate d.frames.toNat (job.operations.filterMap Operation.file?)).flatten ∧
      if 1 < d.frames then
        report.framePaths = (List.range d.frames.toNat).map (fun f => d.framePath directory f) ∧
        ∃ animation, report.animation = some animation ∧
          job.calls s₀ = frames.flatten ++
            [⟨.assemble ⟨d.basename, report.framePaths, directory, job.settings.frameDuration⟩,
              .ok (some animation)⟩]
      else report.framePaths = [] ∧ report.animation = none ∧ job.calls s₀ = frames.flatten := by
  obtain ⟨d, t, hd, ht⟩ := passes_of_run_ok h
  obtain ⟨s, hrec, rfl⟩ := exists_record_ok h
  have hrun : job.journaled.run s₀.journaled = .ok report s := hrec
  have hd' : Directives.ofOperations job.journaled.operations = .ok d := hd
  rw [run_eq_close hd' ht, Render.bind_ok] at hrun
  obtain ⟨paths, s₁, happroach, hclose⟩ := hrun
  have hn : d.isAnimated = true ∨ d.frames.toNat ≤ 1 := by
    simp only [Directives.isAnimated, decide_eq_true_eq]
    omega
  obtain ⟨hpaths, hsaved, frames, hframes, hcalls⟩ := approach_calls hout hdir hn
    (Nat.le_of_eq (Timeline.size_ofOperations ht).symm) happroach
  refine ⟨d, t, frames, hd, ht, hframes, ?_⟩
  rw [calls_of_record_ok hrec]
  by_cases hlt : 1 < d.frames
  · obtain ⟨animation, rfl, hcall⟩ := close_animated hdir hlt hclose
    rw [if_pos hlt] at hpaths ⊢
    subst hpaths
    exact ⟨rfl, rfl, d.nodup_framePaths directory, hsaved, rfl, animation, rfl, hcalls ▸ hcall⟩
  · obtain ⟨rfl, rfl⟩ := close_still hlt hclose
    rw [if_neg hlt] at hpaths ⊢
    subst hpaths
    exact ⟨rfl, rfl, List.nodup_nil, hsaved, rfl, rfl, hcalls⟩

end

/-- Two frames in which a picture is saved and one is shown. -/
def twoPictures : Job Float Gallery where
  operations := [.save "a.png", .frames (.whole 2), .display]
  settings := movingDot.settings
  directory := some "d"
  output := Gallery.output {}

/-- Both frames are exported, and the file of the script is saved twice. -/
theorem output_schedule_twoPictures : ∃ report s' t, ∃ frames : List (List Call),
    twoPictures.run usedState = .ok report s' ∧
    List.Forall₂ (twoPictures.FrameCalls ⟨2, "basename", true⟩ t "d" usedState) [0, 1] frames ∧
    report.framePaths = ["d/basename000.png", "d/basename001.png"] ∧
    report.savedPaths = ["a.png", "a.png"] ∧
    twoPictures.calls usedState = frames.flatten ++
      [⟨.assemble ⟨"basename", report.framePaths, "d", 20⟩, .ok report.animation⟩] := by
  have hreport : Render.result? (twoPictures.run usedState) = some
      ⟨2, "basename", ["d/basename000.png", "d/basename001.png"], ["a.png", "a.png"],
        some "d/basename.gif"⟩ := by decide +kernel
  have h := Render.eq_ok_of_result? hreport
  obtain ⟨d, t, frames, hd, -, hframes, -, -, -, -, hrest⟩ :=
    output_schedule (Gallery.faithful_output {}) rfl h
  obtain rfl : d = ⟨2, "basename", true⟩ := by cases hd; rfl
  obtain ⟨-, animation, hanimation, hcalls⟩ := hrest
  refine ⟨_, _, t, frames, h, hframes, rfl, rfl, ?_⟩
  rw [hanimation]
  exact hcalls

end Job

end SceneScript
